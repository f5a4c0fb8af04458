import ChainApi.Proofs.Cycle
import ChainApi.Proofs.SchemaMap

/-!
# ChainApi.Proofs.Inline

Following references is the same as inlining them.  A schema is expanded by putting
the expansion of a definition in the place of each reference to it that is visited.
Expressing the schema with the definitions at hand and expressing its expansion
without any come to the same.

* `Schema.expand` — a schema with the definitions in the place of the references;
* `Schema.expand_of_enters` — away from cycles, the expansion of a reference is that of
  the definition, wherever the reference stands;
* `Schema.express_expand` — the type of a schema is that of its expansion;
* `Document.inlined` — a document with its schemas expanded and no definitions;
* `Document.follow_eq_inline` — following references is inlining them, in schemas and in
  documents.
-/

namespace ChainApi

namespace Schema

variable {defs : Table Schema} {inline : Bool} {opened opened' : List String} {s t : Schema}
  {name : String}

/-! ## expansion -/

/-- A schema with the definitions in the place of the references that are visited.  A
reference to no definition stays, and so does one to a definition that is being expanded
already. -/
def expand (defs : Table Schema) (s : Schema) (opened : List String := []) : Schema :=
  match s.ref with
  | none => s.rebuildWith fun t part =>
    have := part.sizeOf_lt
    t.expand defs opened
  | some pointer =>
    match found : defs.get? (referenceName pointer) with
    | none => s
    | some target =>
      if fresh : referenceName pointer ∈ opened then s
      else
        have := unopened_lt found fresh
        target.expand defs (opened ++ [referenceName pointer])
termination_by (unopened defs opened, sizeOf s)

theorem expand_of_ref_none (h : s.ref = none) :
    s.expand defs opened = s.rebuild fun t => t.expand defs opened := by
  rw [expand, h]
  rfl

theorem expand_of_missing {pointer : String} (h : s.ref = some pointer)
    (missing : defs.get? (referenceName pointer) = none) : s.expand defs opened = s := by
  rw [expand, h]
  simp only
  split
  · rfl
  · next found => rw [missing] at found; contradiction

theorem expand_of_found {pointer : String} (h : s.ref = some pointer)
    (found : defs.get? (referenceName pointer) = some t) :
    s.expand defs opened = if referenceName pointer ∈ opened then s
      else t.expand defs (opened ++ [referenceName pointer]) := by
  rw [expand, h]
  simp only
  split
  · next missing => rw [missing] at found; contradiction
  · next t' found' =>
    rw [found', Option.some.injEq] at found
    subst found
    rfl

/-- Away from cycles, an expansion does not depend on what is open before, as long as
nothing open is reached. -/
theorem expand_congr_opened (defs : Table Schema) (opened opened' : List String) (s : Schema)
    (acyclic : ¬ s.MeetsCycle defs)
    (closed : ∀ name t, s.Reaches defs name t → name ∉ opened ∧ name ∉ opened') :
    s.expand defs opened = s.expand defs opened' := by
  induction opened, s using express_induction defs generalizing opened' with
  | plain opened s ref ih =>
    rw [expand_of_ref_none ref, expand_of_ref_none ref]
    refine rebuild_congr fun t part => ?_
    exact ih t part opened' (fun h => acyclic (h.head (.part ref part)))
      fun name q h => closed name q (h.head (.part ref part))
  | missing opened s pointer ref missing =>
    rw [expand_of_missing ref missing, expand_of_missing ref missing]
  | found opened s pointer target ref found _ ih =>
    have henters : s.Enters defs (referenceName pointer) target := .intro ref found
    obtain ⟨fresh, fresh'⟩ := closed _ _ henters.reaches
    rw [expand_of_found ref found, expand_of_found ref found, if_neg fresh, if_neg fresh']
    refine ih fresh _ (fun h => acyclic (h.head (.target henters))) ?_
    intro name q hreach
    obtain ⟨hname, hname'⟩ := closed name q (hreach.head (.target henters))
    have hother : name ≠ referenceName pointer := by
      rintro rfl
      exact acyclic (meetsCycle_of_enters henters hreach)
    simp [hname, hname', hother]

/-- Away from cycles, the expansion of a reference is that of the definition. -/
theorem expand_of_enters (acyclic : ¬ s.MeetsCycle defs) (h : s.Enters defs name t) :
    s.expand defs = t.expand defs := by
  have hclosed : ∀ name' q, t.Reaches defs name' q → name' ∉ [name] ∧ name' ∉ [] := by
    intro name' q hreach
    refine ⟨fun hmem => ?_, List.not_mem_nil⟩
    rw [List.mem_singleton] at hmem
    exact acyclic (meetsCycle_of_enters h (hmem ▸ hreach))
  cases h with
  | intro ref found =>
    rw [expand_of_found ref found, if_neg List.not_mem_nil]
    exact expand_congr_opened defs _ _ t
      (fun hcycle => acyclic (hcycle.head (.target (.intro ref found)))) hclosed

/-! ## types of expansions -/

/-- As long as it does not fail, following the references of a schema is expressing its
expansion without definitions. -/
theorem express_expand (defs : Table Schema) (opened : List String) (s : Schema)
    (h : ¬ (s.express defs true opened).Fails) :
    s.express defs true opened = (s.expand defs opened).standalone := by
  rw [standalone]
  induction opened, s using express_induction defs with
  | plain opened s ref ih =>
    rw [expand_of_ref_none ref, express_of_ref_none ref,
      express_of_ref_none (by rw [ref_rebuild, ref])]
    refine expressShape_congr (sameShape_rebuild fun t part => ih t part fun hfails => ?_)
    exact h (fails_express_iff.2 (.inr ⟨ref, t, part, hfails⟩))
  | missing opened s pointer ref missing =>
    rw [expand_of_missing ref missing, express_of_missing ref missing,
      express_of_missing ref (Table.get?_empty _)]
  | found opened s pointer target ref found _ ih =>
    have henters : s.Enters defs (referenceName pointer) target := .intro ref found
    have fresh : referenceName pointer ∉ opened := fun hopen =>
      h (fails_express_iff.2 (.inl ⟨_, target, henters, .inl hopen⟩))
    rw [expand_of_found ref found, express_of_found ref found, if_pos rfl, if_neg fresh,
      if_neg fresh]
    exact ih fresh fun hfails =>
      h (fails_express_iff.2 (.inl ⟨_, target, henters, .inr hfails⟩))

/-- Without definitions there is nothing to follow and nothing to open. -/
theorem express_of_no_definitions (inline inline' : Bool) (opened opened' : List String)
    (s : Schema) : s.express ∅ inline opened = s.express ∅ inline' opened' := by
  induction opened, s using express_induction ∅ with
  | plain opened s ref ih =>
    rw [express_of_ref_none ref, express_of_ref_none ref]
    exact expressShape_congr (.refl ih)
  | missing opened s pointer ref missing =>
    rw [express_of_missing ref missing, express_of_missing ref missing]
  | found opened s pointer target ref found _ _ =>
    rw [Table.get?_empty] at found
    contradiction

/-- A schema that meets no cycle has the type of its expansion. -/
theorem express_eq_standalone_expand (h : ¬ s.MeetsCycle defs) :
    s.express defs true [] = (s.expand defs).standalone :=
  express_expand defs [] s fun hfails => h (meetsCycle_of_fails hfails)

end Schema

/-! ## documents -/

namespace Document

/-- A document with its response and body schemas expanded, and no definitions. -/
def inlined (doc : Document) : Document :=
  { doc.mapSchemas fun s => s.expand doc.definitions with definitions := ∅ }

/-- No cycle is met from any of the response and body schemas. -/
def Acyclic (doc : Document) : Prop := ∀ s, doc.Uses s → ¬ s.MeetsCycle doc.definitions

/-- Following the references of a document makes the catalogue that either mode makes of
the document with its schemas expanded. -/
theorem extract_inlined {doc : Document} (h : doc.Acyclic) (chain : String) (options : Options)
    (mode : Bool) :
    Source.extract ⟨chain, doc, { options with resolveRefs := true }⟩ =
      Source.extract ⟨chain, doc.inlined, { options with resolveRefs := mode }⟩ := by
  have hkeeps : ∀ s, doc.Uses s →
      Source.KeepsType ⟨chain, doc, { options with resolveRefs := true }⟩
        (fun s => s.expand doc.definitions) ∅ mode s := by
    intro s huses
    rw [Source.KeepsType, Schema.express_eq_standalone_expand (h s huses)]
    exact Schema.express_of_no_definitions _ _ _ _ _
  exact (Source.extract_withSchemas hkeeps).symm

/-- **Following references is inlining them.**  From a schema that meets no cycle, the
expansion puts the expansion of a definition in the place of each reference to it, leaves
the other references as they are and otherwise expands part by part; its type on its own
is that of the schema.  A document whose schemas meet no cycle has the catalogue of the
document with its schemas expanded and no definitions, in either mode. -/
theorem follow_eq_inline (doc : Document) :
    (∀ s : Schema, ¬ s.MeetsCycle doc.definitions →
      (∀ pointer t, s.ref = some pointer → doc.resolve pointer = some t →
        s.expand doc.definitions = t.expand doc.definitions) ∧
      (∀ pointer, s.ref = some pointer → doc.resolve pointer = none →
        s.expand doc.definitions = s) ∧
      (s.ref = none →
        s.expand doc.definitions = s.rebuild fun t => t.expand doc.definitions) ∧
      s.express doc.definitions true [] = (s.expand doc.definitions).standalone) ∧
    (doc.Acyclic → ∀ (chain : String) (options : Options) (mode : Bool),
      Source.extract ⟨chain, doc, { options with resolveRefs := true }⟩ =
        Source.extract ⟨chain, doc.inlined, { options with resolveRefs := mode }⟩) := by
  refine ⟨fun s hacyclic => ⟨?_, ?_, ?_, ?_⟩, extract_inlined⟩
  · intro pointer t href hfound
    exact Schema.expand_of_enters hacyclic (.intro href hfound)
  · intro pointer href hmissing
    exact Schema.expand_of_missing href hmissing
  · exact Schema.expand_of_ref_none
  · exact Schema.express_eq_standalone_expand hacyclic

/-- A reference to a definition. -/
def refTo (name : String) : Schema where
  ref := some ("#/definitions/" ++ name)

/-- A balance is a list of coins. -/
def balance : Schema where
  type := some "array"
  description := some "of an account"
  items := some (refTo "Coin")

/-- A coin is a text. -/
def coin : Schema where
  type := some "string"

/-- A document with a single path, whose response is a balance. -/
def balances : Document where
  paths := .singleton "/balances" { get := some {
    operationId := some "Balances"
    responses := .singleton "200" { schema := some (refTo "Balance") } } }
  definitions := .ofList [("Balance", balance), ("Coin", coin)]

theorem uses_balances {s : Schema} (h : balances.Uses s) : s = refTo "Balance" := by
  rcases h with ⟨⟨path, item, listed, declared⟩, uses⟩ | ⟨listed, -⟩
  · cases List.mem_singleton.1 listed
    rcases declared with declared | declared
    · cases declared
      cases uses with
      | response listed schema =>
        have hmem := Table.mem_entries_of_get? listed
        cases List.mem_singleton.1 hmem
        cases schema
        rfl
      | body parameters => contradiction
    · contradiction
  · contradiction

theorem express_balances : (refTo "Balance").express balances.definitions true [] =
    ⟨[], .ok ⟨.array .string, some "of an account"⟩⟩ := by
  have hbalance : balances.definitions.get? (referenceName ("#/definitions/" ++ "Balance")) =
      some balance := by
    rw [show referenceName ("#/definitions/" ++ "Balance") = "Balance" by decide]
    rfl
  have hcoin : balances.definitions.get? (referenceName ("#/definitions/" ++ "Coin")) =
      some coin := by
    rw [show referenceName ("#/definitions/" ++ "Coin") = "Coin" by decide]
    rfl
  rw [Schema.express_of_found rfl hbalance, if_pos rfl, if_neg List.not_mem_nil,
    Schema.express_of_ref_none rfl, Schema.expressShape_array_of_some (by decide) rfl,
    Schema.express_of_found rfl hcoin, if_pos rfl, if_neg (by decide),
    Schema.express_of_ref_none rfl, Schema.expressShape]
  rfl

theorem acyclic_balances : balances.Acyclic := by
  intro s huses hcycle
  rw [uses_balances huses] at hcycle
  have hfails : ((refTo "Balance").express balances.definitions true []).Fails :=
    Schema.fails_of_meetsCycle hcycle
  rw [express_balances] at hfails
  exact Logged.not_fails_ok _ _ hfails

theorem follow_eq_inline_balances :
    balances.Uses (refTo "Balance") ∧ balances.Acyclic ∧
      ((refTo "Balance").expand balances.definitions).standalone =
        ⟨[], .ok ⟨.array .string, some "of an account"⟩⟩ ∧
      Source.extract ⟨"kyve", balances, { resolveRefs := true }⟩ =
        Source.extract ⟨"kyve", balances.inlined, {}⟩ := by
  have hlisted : (Table.singleton "200" { schema := some (refTo "Balance") }).get? "200" =
      some ({ schema := some (refTo "Balance") } : Response) := rfl
  have huses : balances.Uses (refTo "Balance") :=
    .operation ⟨"/balances", _, List.mem_singleton_self _, .inl rfl⟩ (.response hlisted rfl)
  obtain ⟨hschemas, hdocument⟩ := follow_eq_inline balances
  obtain ⟨-, -, -, htype⟩ := hschemas _ (acyclic_balances _ huses)
  refine ⟨huses, acyclic_balances, ?_, hdocument acyclic_balances "kyve" {} false⟩
  rw [← htype, express_balances]

end Document

end ChainApi
