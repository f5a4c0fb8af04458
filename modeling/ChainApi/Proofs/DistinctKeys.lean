import ChainApi.Proofs.LegalKeys
import ChainApi.Proofs.Routing
import Mathlib.Data.List.Pairwise

/-!
# ChainApi.Proofs.DistinctKeys

No type of parameters has a key twice, if no two parameters have both their name and their
place in common.  Some keys are quoted and others are not, so that a key may occur twice in
two spellings.  There is one exception: the body may be listed among the query parameters,
and a query parameter that has its name then has its key, too.

* `SameKey` — two spellings of one key;
* `Parameter.sameKey_iff` — parameters have the same key if they have the same name;
* `keys_properties` — the keys of a type are those of its parameters;
* `Source.operationTypes_distinctKeys` — which types have no key twice.
-/

namespace ChainApi

/-- Two spellings of one key: they are equal, or one is the other one in quotes. -/
def SameKey (a b : String) : Prop := a = b ∨ a = quoted b ∨ b = quoted a

/-- Lines of which no two have the same key. -/
def DistinctKeys (lines : List Property) : Prop :=
  (lines.map Property.key).Pairwise fun a b => ¬ SameKey a b

/-- Has no parameter the name of another one in quotes, be it one pair or two? -/
def ApartFromQuotes (ps : List Parameter) : Prop :=
  ∀ p ∈ ps, ∀ q ∈ ps, ∀ n m, p.name = some n → q.name = some m →
    n ≠ quoted m ∧ n ≠ quoted (quoted m)

/-- Parameters that differ in their names or in their places, if they have names. -/
def UniqueByPlace (ps : List Parameter) : Prop :=
  ps.Pairwise fun p q => p.name.isSome → p.name = q.name → p.location ≠ q.location

/-! ## the key of a parameter -/

/-- A key is the name, with quotes or without. -/
theorem Parameter.key_cases {p : Parameter} {key : String} (h : p.key? = some key) :
    ∃ name, p.name = some name ∧ (key = name ∨ key = quoted name) := by
  obtain ⟨name, hname, rfl⟩ := Option.map_eq_some_iff.1 h
  refine ⟨name, hname, ?_⟩
  unfold displayName
  split_ifs
  · exact .inr rfl
  · exact .inr rfl
  · exact .inl rfl

/-- Parameters have the same key exactly if they have the same name, unless one of the names
is the other one in quotes. -/
theorem Parameter.sameKey_iff {ps : List Parameter} (apart : ApartFromQuotes ps)
    {p q : Parameter} (hp : p ∈ ps) (hq : q ∈ ps) {a b : String} (ha : p.key? = some a)
    (hb : q.key? = some b) : SameKey a b ↔ p.name = q.name := by
  obtain ⟨n, hn, hna⟩ := key_cases ha
  obtain ⟨m, hm, hmb⟩ := key_cases hb
  obtain ⟨hnm, hnm2⟩ := apart p hp q hq n m hn hm
  obtain ⟨hmn, hmn2⟩ := apart q hq p hp m n hm hn
  rw [hn, hm, Option.some.injEq]
  constructor
  · rintro (h | h | h) <;> rcases hna with rfl | rfl <;> rcases hmb with rfl | rfl
    · exact h
    · exact absurd h hnm
    · exact absurd h.symm hmn
    · exact quoted_injective h
    · exact absurd h hnm
    · exact absurd h hnm2
    · exact quoted_injective h
    · exact absurd (quoted_injective h) hnm
    · exact absurd h hmn
    · exact (quoted_injective h).symm
    · exact absurd h hmn2
    · exact absurd (quoted_injective h) hmn
  · rintro rfl
    rcases hna with rfl | rfl <;> rcases hmb with rfl | rfl
    · exact .inl rfl
    · exact .inr (.inr rfl)
    · exact .inr (.inl rfl)
    · exact .inl rfl

/-! ## the keys of a type -/

/-- The type in which a parameter is listed. -/
def Parameter.section? (options : Options) (p : Parameter) : Option ParameterSection :=
  if p.location = some "path" then some .path
  else if p.location = some "query" then some .query
  else if p.location = some "body" then some options.bodyParams.place
  else none

/-- The key that a parameter has in one of the types. -/
def Parameter.keyIn? (options : Options) (place : ParameterSection) (p : Parameter) :
    Option String :=
  if p.section? options = some place then p.key? else none

/-- Do two parameters have different names, if they are listed in the same type? -/
def Parameter.NamedApart (options : Options) (place : ParameterSection) (p q : Parameter) : Prop :=
  p.section? options = some place → q.section? options = some place → p.name.isSome →
    p.name ≠ q.name

instance (options : Options) (place : ParameterSection) :
    Std.Symm (Parameter.NamedApart options place) :=
  ⟨fun _ _ hpq hq hp hsome hsame => hpq hp hq (hsame ▸ hsome) hsame.symm⟩

theorem Parameter.keyIn?_eq_some_iff {options : Options} {place : ParameterSection}
    {p : Parameter} {key : String} : p.keyIn? options place = some key ↔
      p.section? options = some place ∧ p.key? = some key := by
  simp [keyIn?]

section Keys

variable {defs : Table Schema} {options : Options} {p : Parameter} {ps : List Parameter}
  {place : ParameterSection}

theorem sectionOf_append (place : ParameterSection) (xs ys : List (ParameterSection × Property)) :
    sectionOf place (xs ++ ys) = sectionOf place xs ++ sectionOf place ys := by
  simp [sectionOf]

/-- A line has the key of its parameter. -/
theorem keys_property {x : Option (ParameterSection × Property)}
    (h : (p.property defs options).outcome = .ok x) :
    (sectionOf place x.toList).map Property.key = (p.keyIn? options place).toList := by
  have hline (s : ParameterSection) (line : Property) (hsection : p.section? options = some s)
      (hkey : p.key? = some line.key) :
      (sectionOf place [(s, line)]).map Property.key = (p.keyIn? options place).toList := by
    by_cases hs : s = place <;> simp [sectionOf, Parameter.keyIn?, hsection, hkey, hs]
  have hnone (hkey : p.keyIn? options place = none) :
      (sectionOf place []).map Property.key = (p.keyIn? options place).toList := by
    rw [hkey]
    rfl
  cases p.placed with
  | unnamed unnamed =>
    rw [Parameter.property_of_unnamed unnamed] at h
    cases h
    exact hnone (by simp [Parameter.keyIn?, Parameter.key?, unnamed])
  | path named located =>
    rw [Parameter.property_of_path named located] at h
    cases h
    exact hline .path _ (by simp [Parameter.section?, located])
      (by simp [Parameter.key?, named, located])
  | query named located =>
    rw [Parameter.property_of_query named located] at h
    cases h
    exact hline .query _ (by simp [Parameter.section?, located])
      (by simp [Parameter.key?, named, located])
  | body named located =>
    rw [Parameter.property_of_body named located] at h
    obtain ⟨type, -, h⟩ := Logged.outcome_bind_eq_ok.1 h
    cases h
    exact hline _ _ (by simp [Parameter.section?, located])
      (by simp [Parameter.key?, named, located])
  | misplaced named elsewhere =>
    rw [Parameter.property_of_misplaced named elsewhere] at h
    cases h
    simp only [List.mem_cons, List.not_mem_nil, or_false, not_or] at elsewhere
    exact hnone (by simp [Parameter.keyIn?, Parameter.section?, elsewhere])

/-- The keys of a type are those of the parameters that are listed in it, in order. -/
theorem keys_properties {xs : List (ParameterSection × Property)}
    (h : (properties defs options ps).outcome = .ok xs) :
    (sectionOf place xs).map Property.key = ps.filterMap (Parameter.keyIn? options place) := by
  induction ps generalizing xs with
  | nil =>
    cases h
    rfl
  | cons p ps ih =>
    obtain ⟨first, hfirst, h⟩ := Logged.outcome_bind_eq_ok.1 h
    obtain ⟨rest, hrest, h⟩ := Logged.outcome_bind_eq_ok.1 h
    cases h
    rw [sectionOf_append, List.map_append, keys_property hfirst, ih hrest, List.filterMap_cons]
    cases p.keyIn? options place <;> rfl

/-- The lines of a type have distinct keys exactly if the parameters in it have distinct
names. -/
theorem distinctKeys_iff {xs : List (ParameterSection × Property)} (apart : ApartFromQuotes ps)
    (h : (properties defs options ps).outcome = .ok xs) :
    DistinctKeys (sectionOf place xs) ↔ ps.Pairwise (Parameter.NamedApart options place) := by
  rw [DistinctKeys, keys_properties h, List.pairwise_filterMap]
  refine List.Pairwise.iff_of_mem fun {p q} hp hq => ?_
  constructor
  · intro hdistinct hplace hplace' hsome hsame
    obtain ⟨n, hn⟩ := Option.isSome_iff_exists.1 hsome
    have hkey {r : Parameter} (hr : r.name = some n) : ∃ key, r.key? = some key :=
      ⟨_, by rw [Parameter.key?, hr]; rfl⟩
    obtain ⟨a, ha⟩ := hkey hn
    obtain ⟨b, hb⟩ := hkey (hsame ▸ hn)
    exact hdistinct a (Parameter.keyIn?_eq_some_iff.2 ⟨hplace, ha⟩) b
      (Parameter.keyIn?_eq_some_iff.2 ⟨hplace', hb⟩)
      ((Parameter.sameKey_iff apart hp hq ha hb).2 hsame)
  · intro hdistinct a ha b hb hsame
    obtain ⟨hplace, ha⟩ := Parameter.keyIn?_eq_some_iff.1 ha
    obtain ⟨hplace', hb⟩ := Parameter.keyIn?_eq_some_iff.1 hb
    obtain ⟨n, hn, -⟩ := Parameter.key_cases ha
    exact hdistinct hplace hplace' (by rw [hn]; rfl)
      ((Parameter.sameKey_iff apart hp hq ha hb).1 hsame)

/-! ## the three types -/

theorem Parameter.section?_eq_path_iff :
    p.section? options = some .path ↔ p.location = some "path" := by
  unfold section? BodyPlacement.place
  grind

theorem Parameter.section?_eq_body_iff : p.section? options = some .body ↔
    p.location = some "body" ∧ options.bodyParams = .body := by
  unfold section? BodyPlacement.place
  grind

theorem Parameter.section?_eq_query_iff : p.section? options = some .query ↔
    p.location = some "query" ∨ p.location = some "body" ∧ options.bodyParams = .query := by
  unfold section? BodyPlacement.place
  grind

/-- Do query parameters and body parameters have names of their own? -/
def BodiesApart (ps : List Parameter) : Prop :=
  ∀ p ∈ ps, ∀ q ∈ ps, p.location = some "query" → q.location = some "body" → p.name.isSome →
    p.name ≠ q.name

/-- Parameters that are all listed for one place of theirs have distinct keys. -/
theorem distinctKeys_of_location {xs : List (ParameterSection × Property)} {location : String}
    (unique : UniqueByPlace ps) (apart : ApartFromQuotes ps)
    (h : (properties defs options ps).outcome = .ok xs)
    (located : ∀ p : Parameter, p.section? options = some place → p.location = some location) :
    DistinctKeys (sectionOf place xs) := by
  rw [distinctKeys_iff apart h]
  refine unique.imp fun {p q} hunique hp hq hsome hsame => ?_
  exact hunique hsome hsame ((located p hp).trans (located q hq).symm)

/-- Bodies among the query parameters have keys of their own exactly if they have names of
their own. -/
theorem distinctKeys_query_iff {xs : List (ParameterSection × Property)}
    (unique : UniqueByPlace ps) (apart : ApartFromQuotes ps)
    (h : (properties defs options ps).outcome = .ok xs) :
    DistinctKeys (sectionOf .query xs) ↔ (options.bodyParams = .query → BodiesApart ps) := by
  cases hbody : options.bodyParams with
  | body =>
    have hlisted (p : Parameter) (hp : p.section? options = some .query) :
        p.location = some "query" := by
      simpa [Parameter.section?_eq_query_iff, hbody] using hp
    exact iff_of_true (distinctKeys_of_location unique apart h hlisted) nofun
  | query =>
    have hlisted (p : Parameter) : p.section? options = some .query ↔
        p.location = some "query" ∨ p.location = some "body" := by
      simp [Parameter.section?_eq_query_iff, hbody]
    rw [distinctKeys_iff apart h]
    constructor
    · intro hdistinct _ p hp q hq hquery hbody
      have hne : p ≠ q := by
        rintro rfl
        rw [hquery] at hbody
        exact absurd hbody (by decide)
      exact hdistinct.forall hp hq hne ((hlisted p).2 (.inl hquery)) ((hlisted q).2 (.inr hbody))
    · intro hbodies
      refine unique.imp_of_mem fun {p q} hp hq hunique hplace hplace' hsome hsame => ?_
      have hlocations := hunique hsome hsame
      rcases (hlisted p).1 hplace with hp' | hp' <;> rcases (hlisted q).1 hplace' with hq' | hq'
      · exact hlocations (hp'.trans hq'.symm)
      · exact hbodies rfl p hp q hq hp' hq' hsome hsame
      · exact hbodies rfl q hq p hp hq' hp' (hsame ▸ hsome) hsame.symm
      · exact hlocations (hp'.trans hq'.symm)

end Keys

namespace Source

variable {source : Source} {path : String} {method : Method} {op : Operation} {r : OperationTypes}

/-- **Keys are declared once.**  Take an operation none of whose parameters, with the shared
ones in place of the references to them, have both their name and their place in common, and
none of which has the name of another one in quotes.  Then the types of its path parameters
and of its body have no key twice, in whatever spelling.  The type of its query parameters has
none twice exactly if no query parameter has the name of a body that is listed there, and so
always if bodies are listed apart. -/
theorem operationTypes_distinctKeys (unique : UniqueByPlace (source.listedParameters op))
    (apart : ApartFromQuotes (source.listedParameters op))
    (h : (source.operationTypes path method op).outcome = .ok r) :
    ∃ fates, List.Forall₂ (source.Becomes path) (op.parameters.getD []) fates ∧
      (∀ place, ∃ type, r.typesIn place = .singleton source.chain type ∧
        Lists type (Fate.linesIn place fates)) ∧
      DistinctKeys (Fate.linesIn .path fates) ∧ DistinctKeys (Fate.linesIn .body fates) ∧
      (DistinctKeys (Fate.linesIn .query fates) ↔
        (source.options.bodyParams = .query → BodiesApart (source.listedParameters op))) := by
  obtain ⟨types, success, error, htypes, -, -, rfl⟩ := operationTypes_eq_ok_iff.1 h
  obtain ⟨xs, hxs, htypes⟩ := Logged.outcome_bind_eq_ok.1 htypes
  cases htypes
  obtain ⟨fates, hfates, rfl, -, -⟩ := becomes_of_properties path hxs
  refine ⟨fates, hfates, fun place => ?_, ?_, ?_, distinctKeys_query_iff unique apart hxs⟩
  · cases place <;> exact ⟨_, rfl, lists_objectType _⟩
  · exact distinctKeys_of_location unique apart hxs fun p => Parameter.section?_eq_path_iff.1
  · exact distinctKeys_of_location unique apart hxs fun p hp =>
      (Parameter.section?_eq_body_iff.1 hp).1

/-- A parameter of which only the name and the place are told. -/
def parameterAt (name location : String) : Parameter where
  name := some name
  location := some location

/-- An operation with given parameters. -/
def simulation (ps : List Parameter) : Operation where
  operationId := some "Simulate"
  parameters := some ps

/-- A document without shared parameters. -/
def simulationSource : Source where
  chain := "kyve"
  document := {}

theorem operationTypes_distinctKeys_simulation :
    UniqueByPlace [parameterAt "limit" "query", parameterAt "tx" "body"] ∧
    ApartFromQuotes [parameterAt "limit" "query", parameterAt "tx" "body"] ∧
    ∃ r fates,
      (simulationSource.operationTypes "/simulate" .post
        (simulation [parameterAt "limit" "query", parameterAt "tx" "body"])).outcome = .ok r ∧
      r.query = .singleton "kyve" "\x7b\nlimit: string\n'tx': unknown\n\x7d" ∧
      List.Forall₂ (simulationSource.Becomes "/simulate")
        [parameterAt "limit" "query", parameterAt "tx" "body"] fates ∧
      DistinctKeys (Fate.linesIn .query fates) := by
  have unique : UniqueByPlace [parameterAt "limit" "query", parameterAt "tx" "body"] := by
    simp [UniqueByPlace, parameterAt]
  have apart : ApartFromQuotes [parameterAt "limit" "query", parameterAt "tx" "body"] := by
    simp [ApartFromQuotes, parameterAt, quoted]
  have hbodies : BodiesApart [parameterAt "limit" "query", parameterAt "tx" "body"] := by
    simp [BodiesApart, parameterAt]
  obtain ⟨fates, hfates, -, -, -, hquery⟩ :=
    @operationTypes_distinctKeys simulationSource "/simulate" .post
      (simulation [parameterAt "limit" "query", parameterAt "tx" "body"]) _ unique apart rfl
  exact ⟨unique, apart, _, fates, rfl, by decide, hfates, hquery.2 fun _ => hbodies⟩

/-- Does the type of the query declare a limit twice, although no two of the parameters have
both their name and their place in common? -/
def RepeatsLimit (ps : List Parameter) : Prop :=
  UniqueByPlace ps ∧
  ∃ r fates type,
    (simulationSource.operationTypes "/simulate" .post (simulation ps)).outcome = .ok r ∧
    r.query = .singleton "kyve" ("\x7b\nlimit: string\n'limit': " ++ type ++ "\n\x7d") ∧
    List.Forall₂ (simulationSource.Becomes "/simulate") ps fates ∧
    ¬ DistinctKeys (Fate.linesIn .query fates)

theorem sameKeys_of_properties {ps : List Parameter} {type : String}
    (found : ps.filterMap simulationSource.document.resolveParameter = ps)
    (h : (properties ∅ {} ps).outcome =
      .ok [(.query, ⟨none, "limit", "string"⟩), (.query, ⟨none, "'limit'", type⟩)]) :
    ∃ fates, List.Forall₂ (simulationSource.Becomes "/simulate") ps fates ∧
      ¬ DistinctKeys (Fate.linesIn .query fates) := by
  obtain ⟨fates, hfates, hlines, -⟩ :=
    @becomes_of_properties simulationSource "/simulate" ps _ (found.symm ▸ h)
  refine ⟨fates, hfates, ?_⟩
  rw [Fate.linesIn, hlines]
  simp [DistinctKeys, sectionOf, SameKey, quoted]

/-- A limit in the query and one in the body that is listed there give the query type a key
twice, and so do two in the query of which one is in quotes. -/
theorem operationTypes_sameKeys :
    RepeatsLimit [parameterAt "limit" "query", parameterAt "limit" "body"] ∧
      RepeatsLimit [parameterAt "limit" "query", parameterAt "'limit'" "query"] := by
  constructor
  · obtain ⟨fates, hfates, hkeys⟩ := @sameKeys_of_properties
      [parameterAt "limit" "query", parameterAt "limit" "body"] "unknown" rfl (by decide)
    exact ⟨by simp [UniqueByPlace, parameterAt], _, fates, "unknown", rfl, by decide, hfates,
      hkeys⟩
  · obtain ⟨fates, hfates, hkeys⟩ := @sameKeys_of_properties
      [parameterAt "limit" "query", parameterAt "'limit'" "query"] "string" rfl (by decide)
    exact ⟨by simp [UniqueByPlace, parameterAt], _, fates, "string", rfl, by decide, hfates,
      hkeys⟩

end Source

end ChainApi
