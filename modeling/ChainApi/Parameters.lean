import ChainApi.Options
import ChainApi.Text.Replace
import ChainApi.Typing

/-!
# ChainApi.Parameters

The types of an operation's parameters.  A parameter becomes one property of the
path, query or body type, depending on where it is given; one without a name, or
given elsewhere, is left out with a notice.

* `Parameter.property` — the section and the line of one parameter;
* `Parameter.placed`, `Parameter.property_of_path` and the like — what is to be told apart of a
  parameter, and its property in each case;
* `parameterTypes` — the three types of a parameter list;
* `endpointTemplate` — a path whose placeholders are replaced by types;
* `mem_endpointTemplate` — the characters that can occur in it;
* `isPaginated` — does a parameter list allow for paging?
-/

namespace ChainApi

/-- The type of an absent parameter section. -/
def undefinedType : String := "undefined"

/-- The formats in which numbers are sent as text. -/
def numericFormats : List String := ["int32", "int64", "uint32", "uint64"]

/-- The type of a path or query parameter, told by its format. -/
def Parameter.primitiveType (p : Parameter) : String :=
  match p.format with
  | some f => if numericFormats.contains f then "number" else "string"
  | none => "string"

theorem Parameter.primitiveType_eq_or (p : Parameter) :
    p.primitiveType = "number" ∨ p.primitiveType = "string" := by
  rw [Parameter.primitiveType]
  split
  · split
    · exact .inl rfl
    · exact .inr rfl
  · exact .inr rfl

/-- A text in single quotes. -/
def quoted (s : String) : String := "'" ++ s ++ "'"

/-- The name of a path or query parameter as a property.  A name with a dot has
to be quoted. -/
def displayName (name : String) : String := if '.' ∈ name.toList then quoted name else name

/-! ## the parameter types -/

/-- The three types of an operation's parameters. -/
inductive ParameterSection where
  | path
  | query
  | body
  deriving DecidableEq, Repr

/-- One property of a parameter type. -/
structure Property where
  comment : Option String
  /-- The name as it is written, with quotes if it needs them. -/
  key : String
  /-- The type as it is written. -/
  type : String
  deriving DecidableEq, Repr

/-- A property as it is written, with its comment in front. -/
def Property.text (p : Property) : String := commentText p.comment ++ p.key ++ ": " ++ p.type

/-- The property that a parameter becomes, and the section it belongs to. -/
def Parameter.property (defs : Table Schema) (options : Options) (p : Parameter) :
    Logged SchemaCycle (Option (ParameterSection × Property)) :=
  match p.name with
  | none => do
    Logged.note (.parameterUnnamed p.location)
    pure none
  | some name =>
    if p.location = some "path" then
      pure (some (.path, ⟨p.description, displayName name, p.primitiveType⟩))
    else if p.location = some "query" then
      pure (some (.query, ⟨p.description, displayName name, p.primitiveType⟩))
    else if p.location = some "body" then do
      let type ← Schema.annotate defs options.resolveRefs p.schema
      let place := match options.bodyParams with
        | .query => .query
        | .body => .body
      pure (some (place, ⟨p.description, quoted name, type.text⟩))
    else do
      Logged.note (.parameterMisplaced name p.location)
      pure none

/-- The section in which bodies are listed. -/
def BodyPlacement.place : BodyPlacement → ParameterSection
  | query => .query
  | body => .body

/-- Has a parameter a name, and where is it given? -/
inductive Parameter.Placed (p : Parameter) : Prop
  | unnamed (unnamed : p.name = none)
  | path {name : String} (named : p.name = some name) (located : p.location = some "path")
  | query {name : String} (named : p.name = some name) (located : p.location = some "query")
  | body {name : String} (named : p.name = some name) (located : p.location = some "body")
  | misplaced {name : String} (named : p.name = some name)
      (elsewhere : p.location ∉ [some "path", some "query", some "body"])

theorem Parameter.placed (p : Parameter) : p.Placed := by
  cases named : p.name with
  | none => exact .unnamed named
  | some name =>
    by_cases h : p.location ∈ [some "path", some "query", some "body"]
    · simp only [List.mem_cons, List.not_mem_nil, or_false] at h
      rcases h with hpath | hquery | hbody
      · exact .path named hpath
      · exact .query named hquery
      · exact .body named hbody
    · exact .misplaced named h

section Equations

variable {defs : Table Schema} {options : Options} {p : Parameter} {name : String}

theorem Parameter.property_of_unnamed (unnamed : p.name = none) :
    p.property defs options = (do Logged.note (.parameterUnnamed p.location); pure none) := by
  rw [property, unnamed]

theorem Parameter.property_of_path (named : p.name = some name)
    (located : p.location = some "path") : p.property defs options =
      pure (some (.path, ⟨p.description, displayName name, p.primitiveType⟩)) := by
  simp [property, named, located]

theorem Parameter.property_of_query (named : p.name = some name)
    (located : p.location = some "query") : p.property defs options =
      pure (some (.query, ⟨p.description, displayName name, p.primitiveType⟩)) := by
  simp [property, named, located]

theorem Parameter.property_of_body (named : p.name = some name)
    (located : p.location = some "body") : p.property defs options = (do
      let type ← Schema.annotate defs options.resolveRefs p.schema
      pure (some (options.bodyParams.place, ⟨p.description, quoted name, type.text⟩))) := by
  cases h : options.bodyParams <;> simp [property, named, located, h, BodyPlacement.place]

theorem Parameter.property_of_misplaced (named : p.name = some name)
    (elsewhere : p.location ∉ [some "path", some "query", some "body"]) :
    p.property defs options =
      (do Logged.note (.parameterMisplaced name p.location); pure none) := by
  simp only [List.mem_cons, List.not_mem_nil, or_false, not_or] at elsewhere
  simp [property, named, elsewhere]

end Equations

/-- The properties that the parameters of a list become, in order. -/
def properties (defs : Table Schema) (options : Options) :
    List Parameter → Logged SchemaCycle (List (ParameterSection × Property))
  | [] => pure []
  | p :: ps => do
    let first ← p.property defs options
    let rest ← properties defs options ps
    pure (first.toList ++ rest)

/-- An object type over the given properties; undefined if there are none. -/
def objectType (ps : List Property) : String :=
  if ps.isEmpty then undefinedType
  else "\x7b\n" ++ String.join (ps.map fun p => p.text ++ "\n") ++ "\x7d"

/-- The types of an operation's parameters. -/
structure ParameterTypes where
  path : String
  query : String
  body : String
  deriving DecidableEq, Repr

/-- The properties of one section. -/
def sectionOf (place : ParameterSection) (ps : List (ParameterSection × Property)) :
    List Property :=
  (ps.filter fun p => p.1 = place).map Prod.snd

/-- The types of a list of parameters. -/
def parameterTypes (defs : Table Schema) (options : Options) (params : List Parameter) :
    Logged SchemaCycle ParameterTypes := do
  let ps ← properties defs options params
  pure ⟨objectType (sectionOf .path ps), objectType (sectionOf .query ps),
    objectType (sectionOf .body ps)⟩

/-! ## endpoints -/

/-- The placeholder of a parameter in a path. -/
def placeholder (name : String) : List Char := '{' :: name.toList ++ ['}']

/-- The placeholder of a type in a template. -/
def typePlaceholder (type : String) : List Char := '$' :: '{' :: type.toList ++ ['}']

/-- Replace the placeholder of one path parameter. -/
def Parameter.substitute (path : List Char) (p : Parameter) : List Char :=
  match p.name with
  | some name =>
    if p.location = some "path" then
      Text.replaceAll (placeholder name) (typePlaceholder p.primitiveType) path
    else path
  | none => path

/-- A path whose placeholders are replaced by the types of the path parameters,
one parameter after the other. -/
def endpointTemplate (path : String) (params : List Parameter) : String :=
  String.ofList (params.foldl Parameter.substitute path.toList)

/-- The characters of the placeholders of types. -/
def placeholderChars : List Char := "$\x7bnumberstring\x7d".toList

theorem mem_typePlaceholder {p : Parameter} {c : Char}
    (h : c ∈ typePlaceholder p.primitiveType) : c ∈ placeholderChars := by
  have hnumber : typePlaceholder "number" ⊆ placeholderChars := by decide
  have hstring : typePlaceholder "string" ⊆ placeholderChars := by decide
  rcases p.primitiveType_eq_or with htype | htype <;> rw [htype] at h
  · exact hnumber h
  · exact hstring h

theorem mem_substitute {path : List Char} {p : Parameter} {c : Char}
    (h : c ∈ Parameter.substitute path p) : c ∈ placeholderChars ∨ c ∈ path := by
  rw [Parameter.substitute] at h
  split at h
  · split at h
    · exact (Text.mem_of_mem_replaceAll h).imp_left mem_typePlaceholder
    · exact .inr h
  · exact .inr h

/-- A template has the characters of the path, and those of the placeholders. -/
theorem mem_endpointTemplate {path : String} {params : List Parameter} {c : Char}
    (h : c ∈ (endpointTemplate path params).toList) : c ∈ placeholderChars ∨ c ∈ path.toList := by
  rw [endpointTemplate, String.toList_ofList] at h
  revert h
  generalize path.toList = cs
  intro h
  induction params generalizing cs with
  | nil => exact .inr h
  | cons p params ih =>
    rcases ih _ h with h | h
    · exact .inl h
    · exact mem_substitute h

/-! ## paging -/

/-- The query parameters by which a result is paged. -/
def pagingNames : List String :=
  ["pagination.key", "pagination.offset", "pagination.limit", "pagination.count_total",
    "pagination.reverse"]

/-- Is this one of the query parameters by which a result is paged? -/
def Parameter.isPaging (p : Parameter) : Bool :=
  p.location = some "query" &&
    match p.name with
    | some name => pagingNames.contains name
    | none => false

/-- Does a parameter list allow for paging? -/
def isPaginated (params : List Parameter) : Bool := params.any Parameter.isPaging

end ChainApi
