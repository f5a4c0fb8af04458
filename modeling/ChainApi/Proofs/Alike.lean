import ChainApi.Catalogue.Build
import Mathlib.Data.List.Forall2

/-!
# ChainApi.Proofs.Alike

What it means for two documents, and for what is made of them, to be alike: they
agree but for their remarks, and their texts keep certain rules.  A remark may stand
for another one, only an empty one may not stand for one that says something.

Every text of a document that turns up among the declarations is under one of four
rules, so that one account of the way from a document to the declarations serves
whatever is to be said about these texts.  It also serves a single document, which
is alike to itself if its texts keep the rules.

* `TextRules` — what is asked of the texts;
* `Logged.Alike`, `Table.Alike` — computations with related results, and tables with
  related values;
* `Document.Alike` — documents that agree but for their remarks;
* `TypeText` — the written types that are made of them;
* `Catalogue.Alike` — and the catalogues.
-/

namespace ChainApi

/-- What is asked of the texts of a document. -/
structure TextRules where
  /-- What is asked of the names of chains and operations. -/
  name : String → Prop
  /-- What is asked of the keys of object types, as they are written. -/
  key : String → Prop
  /-- What is asked of titles, descriptions and summaries. -/
  remark : String → Prop
  /-- What is asked of paths. -/
  path : String → Prop

/-- Remarks that may stand for each other: both are absent, or empty, or say something. -/
inductive TextRules.Remarks (rules : TextRules) : Option String → Option String → Prop
  | none : Remarks rules none none
  | some {a b : String} (blank : a = "" ↔ b = "") (left : rules.remark a)
      (right : rules.remark b) : Remarks rules (some a) (some b)

theorem TextRules.Remarks.left {rules : TextRules} {a a' : Option String}
    (h : rules.Remarks a a') {remark : String} (hsome : a = Option.some remark) :
    rules.remark remark := by
  subst hsome
  cases h with
  | some _ left _ => exact left

/-! ## optional values -/

theorem rel_none_left {rel : α → β → Prop} {b : Option β} : Option.Rel rel none b ↔ b = none :=
  ⟨fun h => by cases h; rfl, fun h => h ▸ .none⟩

theorem rel_some_left {rel : α → β → Prop} {a : α} {b : Option β} :
    Option.Rel rel (some a) b ↔ ∃ b', b = some b' ∧ rel a b' := by
  constructor
  · rintro (h | _)
    exact ⟨_, rfl, h⟩
  · rintro ⟨b', rfl, h⟩
    exact .some h

/-! ## computations -/

/-- Computations that end alike: with results that are related, or with the same failure. -/
inductive Logged.Alike (rel : α → β → Prop) (x : Logged ε α) (y : Logged ε β) : Prop
  | ok {a : α} {b : β} (left : x.outcome = .ok a) (right : y.outcome = .ok b)
      (related : rel a b) : Alike rel x y
  | error {e : ε} (left : x.outcome = .error e) (right : y.outcome = .error e) : Alike rel x y

namespace Logged

variable {rel : α → β → Prop} {rel' : γ → δ → Prop} {x : Logged ε α} {y : Logged ε β}

theorem Alike.pure {a : α} {b : β} (h : rel a b) :
    Alike rel (pure a : Logged ε α) (pure b) := .ok rfl rfl h

theorem Alike.fail (e : ε) : Alike rel (throw e : Logged ε α) (throw e) := .error rfl rfl

theorem Alike.bind {f : α → Logged ε γ} {g : β → Logged ε δ} (h : Alike rel x y)
    (hrest : ∀ a b, rel a b → Alike rel' (f a) (g b)) : Alike rel' (x >>= f) (y >>= g) := by
  obtain ⟨l, _⟩ := x
  obtain ⟨m, _⟩ := y
  cases h with
  | error left right =>
    cases left
    cases right
    exact .error rfl rfl
  | @ok a b left right related =>
    cases left
    cases right
    cases hrest a b related with
    | ok left right related => exact .ok left right related
    | error left right => exact .error left right

theorem Alike.mapError {ε' : Type w} {f : ε → ε'} (h : Alike rel x y) :
    Alike rel (x.mapError f) (y.mapError f) := by
  obtain ⟨l, _⟩ := x
  obtain ⟨m, _⟩ := y
  cases h with
  | ok left right related => cases left; cases right; exact .ok rfl rfl related
  | error left right => cases left; cases right; exact .error rfl rfl

theorem Alike.imp (h : Alike rel x y) {rel₂ : α → β → Prop} (himp : ∀ a b, rel a b → rel₂ a b) :
    Alike rel₂ x y := by
  cases h with
  | ok left right related => exact .ok left right (himp _ _ related)
  | error left right => exact .error left right

/-- Notices do not count. -/
theorem Alike.note {f : PUnit → Logged ε α} {g : PUnit → Logged ε β} (n m : Notice)
    (h : Alike rel (f ⟨⟩) (g ⟨⟩)) :
    Alike rel (Logged.note n >>= f) (Logged.note m >>= g) := by
  have hnote : Alike (fun _ _ => True) (Logged.note n : Logged ε PUnit)
      (Logged.note m : Logged ε PUnit) := .ok rfl rfl trivial
  exact hnote.bind fun _ _ _ => h

end Logged

/-! ## tables -/

/-- Tables with the same keys in the same order, which keep a rule, and with values that
are related. -/
def Table.Alike (rule : String → Prop) (rel : α → β → Prop) (t : Table α) (t' : Table β) : Prop :=
  List.Forall₂ (fun e e' => e.1 = e'.1 ∧ rule e.1 ∧ rel e.2 e'.2) t.entries t'.entries

namespace Table

variable {rule : String → Prop} {rel : α → β → Prop} {s t : Table α} {s' t' : Table β}
  {k : String}

theorem Alike.empty : Alike rule rel (∅ : Table α) (∅ : Table β) := List.Forall₂.nil

theorem Alike.singleton {a : α} {b : β} (hk : rule k) (h : rel a b) :
    Alike rule rel (Table.singleton k a) (Table.singleton k b) := .cons ⟨rfl, hk, h⟩ .nil

/-- What the entries of the left table are like. -/
theorem Alike.left (h : Alike rule rel t t') {e : String × α} (he : e ∈ t.entries) :
    rule e.1 ∧ ∃ b, rel e.2 b := by
  obtain ⟨es, hes⟩ := t
  obtain ⟨es', hes'⟩ := t'
  simp only [Alike] at h he
  clear hes hes'
  induction h with
  | nil => contradiction
  | cons hfirst _ ih =>
    rcases List.mem_cons.1 he with rfl | he
    · exact ⟨hfirst.2.1, _, hfirst.2.2⟩
    · exact ih he

theorem Alike.keys_eq (h : Alike rule rel t t') : t.keys = t'.keys := by
  obtain ⟨es, hes⟩ := t
  obtain ⟨es', hes'⟩ := t'
  simp only [Alike, keys] at h ⊢
  clear hes hes'
  induction h with
  | nil => rfl
  | cons hfirst _ ih => rw [List.map_cons, List.map_cons, hfirst.1, ih]

theorem Alike.contains_eq (h : Alike rule rel t t') : t.contains k = t'.contains k := by
  rw [contains, contains, h.keys_eq]

theorem Alike.get? (h : Alike rule rel t t') (k : String) :
    Option.Rel rel (t.get? k) (t'.get? k) := by
  obtain ⟨es, hes⟩ := t
  obtain ⟨es', hes'⟩ := t'
  simp only [Alike, Table.get?] at h ⊢
  clear hes hes'
  induction h with
  | nil => exact .none
  | @cons e e' es es' hfirst _ ih =>
    obtain ⟨j, a⟩ := e
    obtain ⟨j', a'⟩ := e'
    obtain ⟨hj, -, hrel⟩ := hfirst
    simp only at hj hrel
    subst hj
    rw [List.lookup_cons, List.lookup_cons]
    cases k == j with
    | true => exact .some hrel
    | false => exact ih

theorem Alike.insert {a : α} {b : β} (h : Alike rule rel t t') (hnew : t.contains k = false)
    (hk : rule k) (hrel : rel a b) : Alike rule rel (t.insert k a) (t'.insert k b) := by
  have hnew' : t'.contains k = false := h.contains_eq ▸ hnew
  rw [Table.insert, Table.insert, dif_neg (by simp [hnew]), dif_neg (by simp [hnew'])]
  exact List.rel_append h (.cons ⟨rfl, hk, hrel⟩ .nil)

theorem Alike.unionWith {f : α → α → α} {g : β → β → β} (hs : Alike rule rel s s')
    (ht : Alike rule rel t t')
    (hf : ∀ a a' b b', rel a b → rel a' b' → rel (f a a') (g b b')) :
    Alike rule rel (Table.unionWith f s t) (Table.unionWith g s' t') := by
  refine List.rel_append ?_ ?_
  · rw [List.forall₂_map_left_iff, List.forall₂_map_right_iff]
    refine List.Forall₂.imp ?_ hs
    rintro ⟨j, a⟩ ⟨j', b⟩ ⟨hj, hrule, hrel⟩
    simp only at hj hrel
    subst hj
    refine ⟨rfl, hrule, ?_⟩
    have hget := ht.get? j
    cases hother : t.get? j <;> cases hother' : t'.get? j <;> rw [hother, hother'] at hget <;>
      cases hget
    · simpa using hrel
    · next hrel' => simpa using hf _ _ _ _ hrel hrel'
  · have hkept : ∀ (e : String × α) (e' : String × β), (e.1 = e'.1 ∧ rule e.1 ∧ rel e.2 e'.2) →
        ((!s.contains e.1) = true ↔ (!s'.contains e'.1) = true) := by
      rintro e e' ⟨he, -, -⟩
      rw [he, hs.contains_eq]
    exact List.rel_filter hkept ht

theorem Alike.union (hs : Alike rule rel s s') (ht : Alike rule rel t t') :
    Alike rule rel (s.union t) (s'.union t') :=
  hs.unionWith ht fun _ _ _ _ h _ => h

end Table

/-! ## documents -/

variable (rules : TextRules)

mutual

/-- Schemas that agree but for their remarks. -/
inductive Schema.Alike : Schema → Schema → Prop
  | intro {s s' : Schema} (type : s.type = s'.type) (ref : s.ref = s'.ref)
      (comment : rules.Remarks s.comment s'.comment)
      (fields : Schema.FieldsAlike s.fields s'.fields)
      (items : Option.Rel Schema.Alike s.items s'.items) : Schema.Alike s s'

/-- Properties that agree but for their remarks. -/
inductive Schema.FieldsAlike : List (String × Schema) → List (String × Schema) → Prop
  | nil : Schema.FieldsAlike [] []
  | cons {name : String} {s s' : Schema} {ps ps' : List (String × Schema)} (key : rules.key name)
      (schema : Schema.Alike s s') (rest : Schema.FieldsAlike ps ps') :
      Schema.FieldsAlike ((name, s) :: ps) ((name, s') :: ps')

end

/-- The key under which a parameter is written. -/
def Parameter.key? (p : Parameter) : Option String :=
  p.name.map fun name => if p.location = some "body" then quoted name else displayName name

/-- Parameters that agree but for their remarks. -/
structure Parameter.Alike (p p' : Parameter) : Prop where
  name : p.name = p'.name
  location : p.location = p'.location
  format : p.format = p'.format
  ref : p.ref = p'.ref
  key : ∀ key, p.key? = some key → rules.key key
  description : rules.Remarks p.description p'.description
  schema : Option.Rel (Schema.Alike rules) p.schema p'.schema

/-- Responses that agree but for their remarks. -/
def Response.Alike (r r' : Response) : Prop := Option.Rel (Schema.Alike rules) r.schema r'.schema

/-- Operations that agree but for their remarks. -/
structure Operation.Alike (op op' : Operation) : Prop where
  operationId : op.operationId = op'.operationId
  name : ∀ id, op.operationId = some id → rules.name id
  summary : rules.Remarks op.summary op'.summary
  parameters : List.Forall₂ (Parameter.Alike rules) (op.parameters.getD []) (op'.parameters.getD [])
  responses : Table.Alike (fun _ => True) (Response.Alike rules) op.responses op'.responses

/-- Paths whose operations agree but for their remarks. -/
structure PathItem.Alike (item item' : PathItem) : Prop where
  get : Option.Rel (Operation.Alike rules) item.get item'.get
  post : Option.Rel (Operation.Alike rules) item.post item'.post

/-- Documents that agree but for their remarks. -/
structure Document.Alike (doc doc' : Document) : Prop where
  paths : Table.Alike rules.path (PathItem.Alike rules) doc.paths doc'.paths
  definitions : Table.Alike (fun _ => True) (Schema.Alike rules) doc.definitions doc'.definitions
  parameters : Table.Alike (fun _ => True) (Parameter.Alike rules) doc.parameters doc'.parameters

/-! ## catalogues -/

mutual

/-- Types that agree but for the remarks on their properties. -/
inductive TypeExpr.Alike : TypeExpr → TypeExpr → Prop
  | unknown : TypeExpr.Alike .unknown .unknown
  | number : TypeExpr.Alike .number .number
  | string : TypeExpr.Alike .string .string
  | boolean : TypeExpr.Alike .boolean .boolean
  | array {t t' : TypeExpr} (item : TypeExpr.Alike t t') : TypeExpr.Alike (.array t) (.array t')
  | object {fs fs' : List (Option String × String × TypeExpr)}
      (fields : TypeExpr.FieldsAlike fs fs') : TypeExpr.Alike (.object fs) (.object fs')

/-- Properties of object types that agree but for their remarks. -/
inductive TypeExpr.FieldsAlike :
    List (Option String × String × TypeExpr) → List (Option String × String × TypeExpr) → Prop
  | nil : TypeExpr.FieldsAlike [] []
  | cons {c c' : Option String} {name : String} {t t' : TypeExpr}
      {fs fs' : List (Option String × String × TypeExpr)} (comment : rules.Remarks c c')
      (key : rules.key name) (type : TypeExpr.Alike t t') (rest : TypeExpr.FieldsAlike fs fs') :
      TypeExpr.FieldsAlike ((c, name, t) :: fs) ((c', name, t') :: fs')

end

/-- Types with a remark each that agree but for their remarks. -/
structure Annotated.Alike (a a' : Annotated) : Prop where
  type : a.type.Alike rules a'.type
  comment : rules.Remarks a.comment a'.comment

/-- Properties of parameter types that agree but for their remarks. -/
structure Property.Alike (p p' : Property) : Prop where
  comment : rules.Remarks p.comment p'.comment
  key : p.key = p'.key
  rule : rules.key p.key
  type : ∃ a a' : Annotated, a.Alike rules a' ∧ p.type = a.text ∧ p'.type = a'.text

/-- The types that stand in a catalogue, as they are written: those of responses, with or
without paging, and those of parameters. -/
inductive TypeText : String → String → Prop
  | response {a a' : Annotated} (h : a.Alike rules a') : TypeText a.text a'.text
  | paged {a a' : Annotated} (h : a.Alike rules a') :
      TypeText (a.text ++ Source.pagingSuffix) (a'.text ++ Source.pagingSuffix)
  | parameters {ps ps' : List Property} (h : List.Forall₂ (Property.Alike rules) ps ps') :
      TypeText (objectType ps) (objectType ps')

/-- An endpoint whose template is made of the path of a document. -/
structure Endpoint.Keeps (e : Endpoint) : Prop where
  comment : rules.path e.comment
  path : ∃ params, e.path = endpointTemplate e.comment params

/-- Records that agree but for their remarks. -/
structure OperationTypes.Alike (r r' : OperationTypes) : Prop where
  method : r.method = r'.method
  comment : rules.Remarks r.comment r'.comment
  endpoint : Table.Alike rules.name (fun e e' => e = e' ∧ e.Keeps rules) r.endpoint r'.endpoint
  path : Table.Alike rules.name (TypeText rules) r.path r'.path
  query : Table.Alike rules.name (TypeText rules) r.query r'.query
  body : Table.Alike rules.name (TypeText rules) r.body r'.body
  success : Table.Alike rules.name (TypeText rules) r.success r'.success
  error : Table.Alike rules.name (TypeText rules) r.error r'.error

/-- Catalogues that agree but for their remarks. -/
def Catalogue.Alike (c c' : Catalogue) : Prop :=
  Table.Alike rules.name (OperationTypes.Alike rules) c c'

namespace Catalogue

variable {rules} {c c' : Catalogue}

theorem Alike.chainNames_eq (h : c.Alike rules c') : c.chainNames = c'.chainNames := by
  have hkeys : c.values.flatMap (fun r => r.endpoint.keys) =
      c'.values.flatMap fun r => r.endpoint.keys := by
    obtain ⟨es, hes⟩ := c
    obtain ⟨es', hes'⟩ := c'
    simp only [Alike, Table.Alike, Table.values] at h ⊢
    clear hes hes'
    induction h with
    | nil => rfl
    | cons hfirst _ ih =>
      rw [List.map_cons, List.map_cons, List.flatMap_cons, List.flatMap_cons, ih,
        hfirst.2.2.endpoint.keys_eq]
  rw [chainNames, chainNames, hkeys]

theorem Alike.name_of_mem_chainNames {chain : String} (h : c.Alike rules c')
    (hchain : chain ∈ c.chainNames) : rules.name chain := by
  rw [chainNames, List.mem_eraseDups, List.mem_flatMap] at hchain
  obtain ⟨r, hr, hkey⟩ := hchain
  obtain ⟨e, he, rfl⟩ := List.mem_map.1 hr
  obtain ⟨f, hf, rfl⟩ := List.mem_map.1 hkey
  obtain ⟨-, r', hrecord⟩ := Table.Alike.left h he
  exact (hrecord.endpoint.left hf).1

end Catalogue

end ChainApi
