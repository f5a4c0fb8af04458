import ChainApi.Proofs.Lasso
import ChainApi.Proofs.SameTypes

/-!
# ChainApi.Proofs.Locality

What a translator is told depends on the definitions that it looks up, and on no others.  A
name is met if it is looked up on the way: at a reference that is come upon in a schema,
and, where references are followed, in the definitions that these lead to.  A name counts
even if there is no definition of it, since there could be one.

Documents that agree on the names met in one of them lead to the same schemas from every
schema that is met, so that the same names are met in both, and all that is met has the same
type in both, whatever is open.

* `Schema.Leads` — what a schema leads to when it is expressed;
* `Schema.next` — the same as a list, and `Schema.mem_of_closed` — how to tell all of it;
* `Schema.Meets` — the names that are looked up on the way;
* `Schema.express_local`, `Schema.meets_local` — what the names that are met decide;
* `Translator.call_local` — a question is answered from the definitions that it meets.
-/

namespace ChainApi

open Relation

namespace Schema

variable {defs defs' : Table Schema} {inline : Bool} {opened : List String} {s t r : Schema}
  {name pointer : String}

/-! ## what is met -/

/-- A schema is expressed by its kind if it has no reference, or one to a definition that is
there but not followed. -/
def ByKind (defs : Table Schema) (inline : Bool) (s : Schema) : Prop :=
  s.ref = none ∨ inline = false ∧ ∃ name t, s.Enters defs name t

/-- What a schema leads to when it is expressed: to the definition that it refers to, if
references are followed, and to its parts, if it is expressed by its kind. -/
inductive Leads (defs : Table Schema) (inline : Bool) : Schema → Schema → Prop
  | target {s t : Schema} {name : String} (follows : inline = true)
      (enters : s.Enters defs name t) : Leads defs inline s t
  | part {s t : Schema} (byKind : s.ByKind defs inline) (part : s.Part t) :
      Leads defs inline s t

/-- The parts of a schema, as a list. -/
def parts (s : Schema) : List Schema :=
  match s.kind with
  | .object => (s.fields.filter fun p => p.1 != typeTag).map Prod.snd
  | .array => s.items.toList
  | _ => []

theorem mem_parts_iff : t ∈ s.parts ↔ s.Part t := by
  rw [parts]
  cases hkind : s.kind with
  | object =>
    constructor
    · intro h
      obtain ⟨p, hmem, rfl⟩ := List.mem_map.1 h
      obtain ⟨listed, other⟩ := List.mem_filter.1 hmem
      exact .property hkind listed (by simpa using other)
    · rintro (⟨-, listed, other⟩ | ⟨kind, -⟩)
      · exact List.mem_map.2 ⟨_, List.mem_filter.2 ⟨listed, by simpa using other⟩, rfl⟩
      · rw [hkind] at kind
        contradiction
  | array =>
    constructor
    · exact fun h => .items hkind (Option.mem_toList.1 h)
    · rintro (⟨kind, -, -⟩ | ⟨-, items⟩)
      · rw [hkind] at kind
        contradiction
      · exact Option.mem_toList.2 items
  | number | string | boolean | other =>
    exact iff_of_false List.not_mem_nil (not_part_of_leaf (by simp [hkind]) (by simp [hkind]))

/-- What a schema leads to, as a list. -/
def next (defs : Table Schema) (inline : Bool) (s : Schema) : List Schema :=
  match s.ref with
  | none => s.parts
  | some pointer =>
    match defs.get? (referenceName pointer) with
    | none => []
    | some target => if inline then [target] else s.parts

theorem mem_next_of_leads (h : Leads defs inline s t) : t ∈ s.next defs inline := by
  rw [next]
  cases h with
  | target follows enters =>
    cases enters with
    | intro ref found =>
      simp only [ref, found, follows]
      exact List.mem_singleton_self t
  | part byKind part =>
    rcases byKind with plain | ⟨keeps, _, _, ⟨ref, found⟩⟩
    · simp only [plain]
      exact mem_parts_iff.2 part
    · simp only [ref, found, keeps]
      exact mem_parts_iff.2 part

/-- What is led to stands in every closed list in which the schema stands. -/
theorem mem_of_closed {schemas : List Schema}
    (closed : ∀ r ∈ schemas, ∀ t ∈ r.next defs inline, t ∈ schemas) (hs : s ∈ schemas)
    (h : ReflTransGen (Leads defs inline) s r) : r ∈ schemas := by
  induction h with
  | refl => exact hs
  | tail _ hstep ih => exact closed _ ih _ (mem_next_of_leads hstep)

/-- The name that a schema refers to. -/
def target? (s : Schema) : Option String := s.ref.map referenceName

/-- A name is met if a schema is led to that refers to it, be it defined or not. -/
def Meets (defs : Table Schema) (inline : Bool) (s : Schema) (name : String) : Prop :=
  ∃ r, ReflTransGen (Leads defs inline) s r ∧ r.target? = some name

theorem Meets.head (h : Leads defs inline s r) (hr : r.Meets defs inline name) :
    s.Meets defs inline name := by
  obtain ⟨q, hpath, hname⟩ := hr
  exact ⟨q, .head h hpath, hname⟩

theorem meets_of_ref (h : s.ref = some pointer) :
    s.Meets defs inline (referenceName pointer) := ⟨s, .refl, by rw [target?, h]; rfl⟩

/-! ## what is met decides -/

/-- One step: schemas lead to the same ones if their reference is looked up alike. -/
theorem leads_of_agree (agree : ∀ name, s.target? = some name → defs.get? name = defs'.get? name)
    (h : Leads defs inline s t) : Leads defs' inline s t := by
  have henters : ∀ {name t}, s.Enters defs name t → s.Enters defs' name t := by
    rintro _ t ⟨ref, found⟩
    exact .intro ref (agree _ (by rw [target?, ref]; rfl) ▸ found)
  cases h with
  | target follows enters => exact .target follows (henters enters)
  | part byKind part =>
    rcases byKind with plain | ⟨keeps, name, t, enters⟩
    · exact .part (.inl plain) part
    · exact .part (.inr ⟨keeps, name, t, henters enters⟩) part

/-- A run of steps: what is led to is the same. -/
theorem leads_run_iff
    (agree : ∀ name, s.Meets defs inline name → defs.get? name = defs'.get? name) :
    ReflTransGen (Leads defs inline) s r ↔ ReflTransGen (Leads defs' inline) s r := by
  constructor
  · intro h
    induction h using ReflTransGen.head_induction_on with
    | refl => exact .refl
    | @head s t hstep _ ih =>
      have hhere := fun name (hname : s.target? = some name) => agree name ⟨s, .refl, hname⟩
      exact .head (leads_of_agree hhere hstep)
        (ih fun name hmeets => agree name (hmeets.head hstep))
  · -- what is met is told by the first table, so that a step is taken back to it at once
    intro h
    induction h using ReflTransGen.head_induction_on with
    | refl => exact .refl
    | @head s t hstep _ ih =>
      have hhere := fun name (hname : s.target? = some name) =>
        (agree name ⟨s, .refl, hname⟩).symm
      have hback := leads_of_agree hhere hstep
      exact .head hback (ih fun name hmeets => agree name (hmeets.head hback))

/-- The same names are met. -/
theorem meets_local (agree : ∀ name, s.Meets defs inline name → defs.get? name = defs'.get? name)
    (name : String) : s.Meets defs inline name ↔ s.Meets defs' inline name :=
  exists_congr fun _ => and_congr_left fun _ => leads_run_iff agree

/-- Schemas that are expressed by their kind have the same type if their parts have. -/
theorem expressShape_local (byKind : s.ByKind defs inline)
    (h : ∀ t, Leads defs inline s t → s.Part t →
      t.express defs inline opened = t.express defs' inline opened) :
    s.expressShape defs inline opened = s.expressShape defs' inline opened :=
  expressShape_congr (.refl fun t part => h t (.part byKind part) part)

/-- A schema has the same type in tables that agree on the names that it meets, and the same
notices and failures. -/
theorem express_local (defs defs' : Table Schema) (inline : Bool) (opened : List String)
    (s : Schema)
    (agree : ∀ name, s.Meets defs inline name → defs.get? name = defs'.get? name) :
    s.express defs inline opened = s.express defs' inline opened := by
  induction opened, s using express_induction defs with
  | plain opened s ref ih =>
    rw [express_of_ref_none ref, express_of_ref_none ref]
    exact expressShape_local (.inl ref) fun t hleads part =>
      ih t part fun name hmeets => agree name (hmeets.head hleads)
  | missing opened s pointer ref missing =>
    have hagree := agree _ (meets_of_ref ref)
    rw [express_of_missing ref missing, express_of_missing ref (hagree ▸ missing)]
  | found opened s pointer target ref found ihParts ih =>
    have hagree := agree _ (meets_of_ref ref)
    have henters : s.Enters defs (referenceName pointer) target := .intro ref found
    rw [express_of_found ref found, express_of_found ref (hagree ▸ found)]
    by_cases hinline : inline = true
    · rw [if_pos hinline, if_pos hinline]
      by_cases hopen : referenceName pointer ∈ opened
      · rw [if_pos hopen, if_pos hopen]
      · rw [if_neg hopen, if_neg hopen]
        exact ih hopen fun name hmeets => agree name (hmeets.head (.target hinline henters))
    · rw [if_neg hinline, if_neg hinline]
      exact expressShape_local (.inr ⟨Bool.eq_false_iff.2 hinline, _, target, henters⟩)
        fun t hleads part => ihParts t part fun name hmeets => agree name (hmeets.head hleads)

end Schema

/-! ## questions -/

namespace Translator

variable {document document' : Document} {options : Options} {c : Call}

/-- The answer to a question depends on the types of the schemas that it is about. -/
theorem Call.answer_local (h : ∀ s ∈ c.roots,
      s.express document.definitions options.resolveRefs [] =
        s.express document'.definitions options.resolveRefs []) :
    c.answer document options = c.answer document' options := by
  cases c with
  | schema s => rw [answer, answer, h s (List.mem_singleton_self s)]
  | node n =>
    cases n with
    | none => rfl
    | some s =>
      rw [answer, answer, Schema.annotate, Schema.annotate, h s (List.mem_singleton_self s)]
  | parameters ps => rw [answer, answer, parameterTypes, parameterTypes, properties_congr rfl h]

/-- A question meets the names that its schemas meet. -/
def Call.Meets (defs : Table Schema) (inline : Bool) (c : Call) (name : String) : Prop :=
  ∃ s ∈ c.roots, s.Meets defs inline name

/-- Two translators, each with nothing on its stack, have the same reply to a question. -/
def Agree (t t' : Translator) (c : Call) : Prop :=
  ∃ reply, t.call [] c = some reply ∧ t'.call [] c = some reply

theorem agree_of_answer (h : c.answer document options = c.answer document' options) :
    Agree ⟨document, options⟩ ⟨document', options⟩ c :=
  ⟨_, call_eq _ c, by rw [call_eq, h]⟩

/-- **A question is answered from the definitions that it meets.**  In a document that agrees
on the names that it meets, the reply is the same, answer or failure, and the same names are
met.  So nothing changes if a definition of another name is added, replaced or removed. -/
theorem call_local (document : Document) (options : Options) (c : Call) :
    (∀ document' : Document,
      (∀ name, c.Meets document.definitions options.resolveRefs name →
        document.definitions.get? name = document'.definitions.get? name) →
      Agree ⟨document, options⟩ ⟨document', options⟩ c ∧
      ∀ name, c.Meets document.definitions options.resolveRefs name ↔
        c.Meets document'.definitions options.resolveRefs name) ∧
    ∀ name, ¬ c.Meets document.definitions options.resolveRefs name →
      (∀ t, Agree ⟨document, options⟩
        ⟨{ document with definitions := document.definitions.insert name t }, options⟩ c) ∧
      Agree ⟨document, options⟩ ⟨{ document with
        definitions := document.definitions.filter fun other _ => other != name }, options⟩ c := by
  have hlocal : ∀ document' : Document,
      (∀ name, c.Meets document.definitions options.resolveRefs name →
        document.definitions.get? name = document'.definitions.get? name) →
      Agree ⟨document, options⟩ ⟨document', options⟩ c ∧
      ∀ name, c.Meets document.definitions options.resolveRefs name ↔
        c.Meets document'.definitions options.resolveRefs name := by
    intro document' agree
    have hroots : ∀ s ∈ c.roots, ∀ name, s.Meets document.definitions options.resolveRefs name →
        document.definitions.get? name = document'.definitions.get? name :=
      fun s hroot name hmeets => agree name ⟨s, hroot, hmeets⟩
    refine ⟨agree_of_answer (Call.answer_local fun s hroot => ?_), fun name => ?_⟩
    · exact Schema.express_local _ _ _ [] s (hroots s hroot)
    · exact exists_congr fun s => and_congr_right fun hroot =>
        Schema.meets_local (hroots s hroot) name
  refine ⟨hlocal, fun name hunmet => ⟨fun t => (hlocal _ ?_).1, (hlocal _ ?_).1⟩⟩
  all_goals
    intro other hmeets
    have hother : other ≠ name := fun heq => hunmet (heq ▸ hmeets)
  · rw [Table.get?_insert, if_neg hother]
  · rw [Table.get?_filter_key, if_pos (by simpa using hother)]

/-- From a reference to trees, trees are the only name that is met. -/
theorem meets_treeReference {name : String}
    (h : (Call.schema Schema.treeReference).Meets park.definitions true name) :
    name = "Tree" := by
  obtain ⟨s, hroot, r, hpath, hname⟩ := h
  rw [List.mem_singleton.1 hroot] at hpath
  have hmem : r ∈ [Schema.treeReference, Schema.tree, Schema.treeChildren] :=
    Schema.mem_of_closed (by decide +kernel) List.mem_cons_self hpath
  have hnames : ∀ t ∈ [Schema.treeReference, Schema.tree, Schema.treeChildren],
      ∀ name ∈ t.target?, name = "Tree" := by
    decide
  exact hnames r hmem name hname

/-- Without the definition of parks, with another one, and in a document that never had any,
a reference to trees comes to the same. -/
theorem call_local_treeReference :
    Agree ⟨park, { resolveRefs := true }⟩ ⟨Schema.forest, { resolveRefs := true }⟩
        (.schema Schema.treeReference) ∧
      Agree ⟨park, { resolveRefs := true }⟩
        ⟨{ park with definitions := park.definitions.insert "Park" parkReference },
          { resolveRefs := true }⟩ (.schema Schema.treeReference) ∧
      Agree ⟨park, { resolveRefs := true }⟩
        ⟨{ park with definitions := park.definitions.filter fun other _ => other != "Park" },
          { resolveRefs := true }⟩ (.schema Schema.treeReference) := by
  obtain ⟨hagree, hunmet⟩ :=
    call_local park { resolveRefs := true } (.schema Schema.treeReference)
  have hpark : ¬ (Call.schema Schema.treeReference).Meets park.definitions true "Park" :=
    fun hmeets => absurd (meets_treeReference hmeets) (by decide)
  refine ⟨(hagree Schema.forest fun name hmeets => ?_).1, (hunmet "Park" hpark).1 parkReference,
    (hunmet "Park" hpark).2⟩
  rw [meets_treeReference hmeets]
  rfl

end Translator

end ChainApi
