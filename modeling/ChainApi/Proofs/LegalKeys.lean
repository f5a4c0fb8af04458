import ChainApi.Proofs.Build
import ChainApi.Proofs.Layout
import ChainApi.Proofs.Lockstep

/-!
# ChainApi.Proofs.LegalKeys

The keys of a declaration file.  A key of an object type has to be an identifier or a
literal in single quotes.  Operation ids and chain names are quoted where they have to
be, and so are the names of body parameters.  Of the other parameters only those with
a dot in their name are quoted, and the properties of schemas never are, so that their
names have to be legal as they stand.

* `legalKey_quoted_iff`, `legalKey_keyText_iff` — when a quoted name, and the key that
  is made of a name, are legal;
* `WrittenKeys` — the keys in a written type;
* `Catalogue.build_legalKeys` — the keys are legal if the names are;
* `Catalogue.build_illegalKeys` — they are not in general.
-/

namespace ChainApi

/-! ## legal keys -/

/-- A name that can stand in single quotes. -/
def Quotable (name : String) : Prop := '\'' ∉ name.toList ∧ '\n' ∉ name.toList

instance : DecidablePred Quotable := fun name =>
  inferInstanceAs (Decidable ('\'' ∉ name.toList ∧ '\n' ∉ name.toList))

/-- A key that is legal in an object type: an identifier, or a literal in single quotes. -/
def LegalKey (key : String) : Prop :=
  Text.isIdentifier key.toList = true ∨ ∃ content, key = quoted content ∧ Quotable content

theorem isIdentifier_quoted (name : String) : Text.isIdentifier (quoted name).toList = false := by
  have hquote : Text.isIdentifierStart '\'' = false := by decide
  rw [toList_quoted, List.cons_append, Text.isIdentifier, hquote, Bool.false_and]

theorem quoted_injective {a b : String} (h : quoted a = quoted b) : a = b := by
  rw [← String.toList_inj, toList_quoted, toList_quoted] at h
  exact String.toList_inj.1 (List.append_cancel_right (List.cons.inj h).2)

/-- A name in quotes is legal if no character of it ends the literal. -/
theorem legalKey_quoted_iff {name : String} : LegalKey (quoted name) ↔ Quotable name := by
  constructor
  · rintro (hid | ⟨content, heq, hcontent⟩)
    · rw [isIdentifier_quoted] at hid
      contradiction
    · rwa [quoted_injective heq]
  · exact fun h => .inr ⟨name, rfl, h⟩

theorem quotable_of_isIdentifier {name : String} (h : Text.isIdentifier name.toList = true) :
    Quotable name := by
  have hother : ∀ c, Text.isIdentifierPart c = false → c ∉ name.toList := by
    intro c hc hmem
    rw [Text.isIdentifierPart_of_mem h hmem] at hc
    contradiction
  exact ⟨hother _ (by decide), hother _ (by decide)⟩

/-- The key of a chain or an operation is legal if no character of the name ends a literal. -/
theorem legalKey_keyText_iff {name : String} : LegalKey (keyText name) ↔ Quotable name := by
  rw [keyText]
  split
  · next hid => exact ⟨fun _ => quotable_of_isIdentifier hid, fun _ => .inl hid⟩
  · exact legalKey_quoted_iff

/-- A parameter whose name makes a legal key: it can be quoted, or else is legal as it is. -/
def Parameter.Legal (p : Parameter) : Prop :=
  ∀ name, p.name = some name →
    if p.location = some "body" ∨ '.' ∈ name.toList then Quotable name else LegalKey name

theorem Parameter.Legal.key {p : Parameter} (h : p.Legal) {key : String}
    (hkey : p.key? = some key) : LegalKey key := by
  obtain ⟨name, hname, rfl⟩ := Option.map_eq_some_iff.1 hkey
  have hlegal := h name hname
  by_cases hbody : p.location = some "body"
  · rw [if_pos (.inl hbody)] at hlegal
    rw [if_pos hbody]
    exact legalKey_quoted_iff.2 hlegal
  · rw [if_neg hbody, displayName]
    by_cases hdot : '.' ∈ name.toList
    · rw [if_pos (.inr hdot)] at hlegal
      rw [if_pos hdot]
      exact legalKey_quoted_iff.2 hlegal
    · rw [if_neg (not_or.2 ⟨hbody, hdot⟩)] at hlegal
      rwa [if_neg hdot]

/-! ## the keys of written types -/

mutual

/-- The keys in a type, at any depth. -/
def TypeExpr.keys : TypeExpr → List String
  | .array item => item.keys
  | .object fields => keysOfFields fields
  | .unknown | .number | .string | .boolean => []

/-- The keys in the properties of an object type. -/
def keysOfFields : List (Option String × String × TypeExpr) → List String
  | [] => []
  | (_, name, type) :: fields => name :: (type.keys ++ keysOfFields fields)

end

/-- The keys in a type as it is written: the type of a response, with or without paging, or
of parameters, each of which has a type of its own. -/
inductive WrittenKeys : String → List String → Prop
  | response (a : Annotated) : WrittenKeys a.text a.type.keys
  | paged (a : Annotated) : WrittenKeys (a.text ++ Source.pagingSuffix) a.type.keys
  | parameters (ps : List (Property × Annotated)) (h : ∀ p ∈ ps, p.1.type = p.2.text) :
      WrittenKeys (objectType (ps.map Prod.fst)) (ps.flatMap fun p => p.1.key :: p.2.type.keys)

/-- A written type all of whose keys are legal. -/
def LegalType (type : String) : Prop := ∃ keys, WrittenKeys type keys ∧ ∀ key ∈ keys, LegalKey key

/-- What is asked of the texts of a document for its keys to be legal. -/
def keyRules : TextRules where
  name := Quotable
  key := LegalKey
  remark _ := True
  path _ := True

mutual

theorem TypeExpr.Alike.legalKey {t t' : TypeExpr} :
    t.Alike keyRules t' → ∀ key ∈ t.keys, LegalKey key
  | .unknown, _, hkey | .number, _, hkey | .string, _, hkey | .boolean, _, hkey => by
    simp [keys] at hkey
  | .array item, key, hkey => by
    rw [keys] at hkey
    exact item.legalKey key hkey
  | .object fields, key, hkey => by
    rw [keys] at hkey
    exact fields.legalKey key hkey

theorem TypeExpr.FieldsAlike.legalKey {fs fs' : List (Option String × String × TypeExpr)} :
    FieldsAlike keyRules fs fs' → ∀ key ∈ keysOfFields fs, LegalKey key
  | .nil, _, hkey => by simp [keysOfFields] at hkey
  | .cons _ hname type rest, key, hkey => by
    rw [keysOfFields, List.mem_cons, List.mem_append] at hkey
    rcases hkey with rfl | hkey | hkey
    · exact hname
    · exact type.legalKey key hkey
    · exact rest.legalKey key hkey

end

theorem TypeText.legalType {τ τ' : String} (h : TypeText keyRules τ τ') : LegalType τ := by
  cases h with
  | @response a _ ha => exact ⟨_, .response a, ha.type.legalKey⟩
  | @paged a _ ha => exact ⟨_, .paged a, ha.type.legalKey⟩
  | @parameters ps ps' hps =>
    obtain ⟨qs, rfl, htypes, hkeys⟩ : ∃ qs : List (Property × Annotated), qs.map Prod.fst = ps ∧
        (∀ q ∈ qs, q.1.type = q.2.text) ∧
        ∀ key ∈ qs.flatMap (fun q => q.1.key :: q.2.type.keys), LegalKey key := by
      induction hps with
      | nil => exact ⟨[], rfl, by simp, by simp⟩
      | @cons p p' ps ps' hp _ ih =>
        obtain ⟨qs, hqs, htypes, hkeys⟩ := ih
        obtain ⟨a, a', ha, htype, -⟩ := hp.type
        refine ⟨(p, a) :: qs, by rw [List.map_cons, hqs], ?_, ?_⟩
        · exact List.forall_mem_cons.2 ⟨htype, htypes⟩
        · rw [List.flatMap_cons]
          refine List.forall_mem_append.2 ⟨?_, hkeys⟩
          exact List.forall_mem_cons.2 ⟨hp.rule, ha.type.legalKey⟩
    exact ⟨_, .parameters qs htypes, hkeys⟩

/-! ## catalogues -/

/-- A chain whose names make legal keys. -/
structure LegalNames (chain : String × Document) : Prop where
  name : Quotable chain.1
  operationIds : ∀ id ∈ chain.2.operationIds, Quotable id
  parameters : ∀ p ∈ chain.2.allParameters, p.Legal
  properties : ∀ name ∈ chain.2.propertyNames, LegalKey name

theorem LegalNames.keeps {chain : String × Document} (h : LegalNames chain) :
    chain.2.Keeps keyRules where
  ids := h.operationIds
  parameters p hp _ hkey := (h.parameters p hp).key hkey
  properties := h.properties
  paths _ _ := trivial
  remarks _ _ := trivial

/-- A column of types whose keys are legal. -/
def LegalColumn (types : Table String) : Prop :=
  ∀ e ∈ types.entries, LegalKey (keyText e.1) ∧ LegalType e.2

/-- An operation whose keys are legal: its id, the chains, and the keys of the types. -/
structure LegalOperation (id : String) (r : OperationTypes) : Prop where
  id : LegalKey (keyText id)
  endpoint : ∀ e ∈ r.endpoint.entries, LegalKey (keyText e.1)
  path : LegalColumn r.path
  query : LegalColumn r.query
  body : LegalColumn r.body
  success : LegalColumn r.success
  error : LegalColumn r.error

theorem legalColumn_of_alike {types types' : Table String}
    (h : Table.Alike keyRules.name (TypeText keyRules) types types') : LegalColumn types := by
  intro e he
  obtain ⟨hname, _, htype⟩ := h.left he
  exact ⟨legalKey_keyText_iff.2 hname, htype.legalType⟩

namespace Catalogue

variable {options : Options} {chains : List (String × Document)} {c : Catalogue}

/-- If the names of the chains, their operations and parameters, and the properties of
their schemas make legal keys, then all keys of the catalogue are legal. -/
theorem build_legalKeys (legal : ∀ chain ∈ chains, LegalNames chain)
    (built : (build options chains).outcome = .ok c) :
    ∀ e ∈ c.entries, LegalOperation e.1 e.2 := by
  obtain ⟨c', halike⟩ := alike_of_build
    (fun chain hmem => ⟨(legal chain hmem).name, (legal chain hmem).keeps⟩) built
  intro e he
  obtain ⟨hid, r, hr⟩ := Table.Alike.left halike he
  exact {
    id := legalKey_keyText_iff.2 hid
    endpoint := fun f hf => legalKey_keyText_iff.2 (hr.endpoint.left hf).1
    path := legalColumn_of_alike hr.path
    query := legalColumn_of_alike hr.query
    body := legalColumn_of_alike hr.body
    success := legalColumn_of_alike hr.success
    error := legalColumn_of_alike hr.error }

/-- An object with a single property. -/
def accountSchema (property : String) : Schema where
  type := some "object"
  properties := some [(property, { type := some "string" })]

/-- An operation with a single parameter, which answers with such an object. -/
def accountOperation (parameter property : String) : Operation where
  operationId := some "account-of"
  parameters := some [{ name := some parameter, location := some "query" }]
  responses := .singleton "200" { schema := some (accountSchema property) }

/-- The path of such an operation. -/
def accountPath (parameter property : String) : PathItem where
  get := some (accountOperation parameter property)

/-- A document with this path. -/
def accountDocument (parameter property : String) : Document where
  paths := .singleton "/account" (accountPath parameter property)

/-- A chain with this document. -/
def accountChains (parameter property : String) : List (String × Document) :=
  [("osmosis-1", accountDocument parameter property)]

/-- The record of the operation. -/
def accountTypes (parameter property : String) : OperationTypes where
  method := .get
  endpoint := .singleton "osmosis-1" ⟨"/account", "/account"⟩
  path := .singleton "osmosis-1" undefinedType
  query := .singleton "osmosis-1" (objectType [⟨none, displayName parameter, "string"⟩])
  body := .singleton "osmosis-1" undefinedType
  success := .singleton "osmosis-1" (TypeExpr.object [(none, property, .string)]).text
  error := .singleton "osmosis-1" "unknown"

theorem annotate_accountSchema {property : String} (h : property ≠ typeTag) :
    Schema.annotate ∅ false (some (accountSchema property)) =
      pure ⟨.object [(none, property, .string)], none⟩ := by
  have hfields : (accountSchema property).fields = [(property, { type := some "string" })] := rfl
  rw [Schema.annotate, Schema.express_of_ref_none rfl, Schema.expressShape_object (by rfl), hfields,
    expressFields_cons h, expressFields_nil, Schema.express_of_ref_none rfl, Schema.expressShape]
  rfl

theorem build_accountChains {parameter property : String} (h : property ≠ typeTag) :
    (build {} (accountChains parameter property)).outcome =
      .ok (.singleton "account-of" (accountTypes parameter property)) := by
  let source : Source := ⟨"osmosis-1", accountDocument parameter property, {}⟩
  have hsuccess : source.responseType (accountOperation parameter property) "200" =
      pure (TypeExpr.object [(none, property, .string)]).text := by
    show (do
      let type ← (Schema.annotate ∅ false (some (accountSchema property))).mapError .cycle
      pure type.text : Logged ExtractionError String) = _
    rw [annotate_accountSchema h]
    rfl
  have hrecord : source.operationTypes "/account" .get (accountOperation parameter property) =
      pure (accountTypes parameter property) := by
    rw [Source.operationTypes, hsuccess]
    rfl
  have hpath : source.AddsPath ∅ "/account" (accountPath parameter property)
      (.singleton "account-of" (accountTypes parameter property)) :=
    .added rfl rfl (by decide) List.not_mem_nil (by rw [hrecord]; rfl)
  have hextract : source.extract.outcome =
      .ok (.singleton "account-of" (accountTypes parameter property)) :=
    Source.extract_eq_ok_iff.2 (.cons hpath .nil)
  have hextracted : Extracted {} (accountChains parameter property)
      [("osmosis-1", .singleton "account-of" (accountTypes parameter property))] :=
    .cons ⟨rfl, hextract⟩ .nil
  exact outcome_build (by simp [accountChains]) (by simp [accountChains]) hextracted

theorem build_legalKeys_accountChains :
    (∀ chain ∈ accountChains "pagination.limit" "denom", LegalNames chain) ∧
      ∃ c, (build {} (accountChains "pagination.limit" "denom")).outcome = .ok c ∧
        ∀ e ∈ c.entries, LegalOperation e.1 e.2 := by
  have legal : ∀ chain ∈ accountChains "pagination.limit" "denom", LegalNames chain := by
    intro chain hchain
    cases List.mem_singleton.1 hchain
    have hparameter : Quotable "pagination.limit" ∧ '.' ∈ "pagination.limit".toList := by decide
    have hproperty : LegalKey "denom" := .inl (by decide)
    exact {
      name := by decide
      operationIds := by decide
      parameters := by
        intro p hp name hname
        cases List.mem_singleton.1 hp
        cases hname
        rw [if_pos (.inr hparameter.2)]
        exact hparameter.1
      properties := by
        intro name hname
        cases List.mem_singleton.1 hname
        exact hproperty }
  exact ⟨legal, _, build_accountChains (by decide),
    build_legalKeys legal (build_accountChains (by decide))⟩

/-- Neither the brackets in the name of a parameter nor the sign in front of the name of a
property are quoted. -/
theorem build_illegalKeys :
    ∃ c r, (build {} (accountChains "filters[status]" "@type")).outcome = .ok c ∧
      c.get? "account-of" = some r ∧
      r.query.get? "osmosis-1" = some "\x7b\nfilters[status]: string\n\x7d" ∧
      WrittenKeys "\x7b\nfilters[status]: string\n\x7d" ["filters[status]"] ∧
      ¬ LegalKey "filters[status]" ∧
      r.success.get? "osmosis-1" = some "\x7b\n@type: string\n\x7d" ∧
      WrittenKeys "\x7b\n@type: string\n\x7d" ["@type"] ∧ ¬ LegalKey "@type" := by
  have hillegal : ∀ {key : String}, Text.isIdentifier key.toList = false →
      key.toList.head? ≠ some '\'' → ¬ LegalKey key := by
    rintro key hid hhead (h | ⟨content, rfl, -⟩)
    · rw [hid] at h
      contradiction
    · rw [toList_quoted] at hhead
      exact hhead rfl
  have hquery : objectType [⟨none, "filters[status]", "string"⟩] =
      "\x7b\nfilters[status]: string\n\x7d" := by decide
  have hqueryKeys := WrittenKeys.parameters
    [(⟨none, "filters[status]", "string"⟩, ⟨.string, none⟩)] (by decide)
  have hsuccess : (⟨.object [(none, "@type", .string)], none⟩ : Annotated).text =
      "\x7b\n@type: string\n\x7d" := by decide
  have hsuccessKeys := WrittenKeys.response ⟨.object [(none, "@type", .string)], none⟩
  rw [hsuccess] at hsuccessKeys
  refine ⟨_, _, build_accountChains (by decide), rfl, congrArg some hquery, hquery ▸ hqueryKeys,
    hillegal (by decide) (by decide), congrArg some ?_, hsuccessKeys,
    hillegal (by decide) (by decide)⟩
  decide

end Catalogue

end ChainApi
