import ChainApi.Parameters

/-!
# ChainApi.Translator

A translator answers questions about one document, one after the other, and works on a
stack: the names of the definitions that it is expressing at the moment.  A name is put
on the stack when its definition is entered and taken off when it is left, whether the
definition could be expressed or not.

* `Translating` — work on the stack, which may fail and give notices;
* `Translator.translate`, `.node`, `.parameters` — express a schema, a node that may be
  absent, and a list of parameters;
* `Translator.room` — how many definitions there can be on the stack at the same time;
* `Translator.call` — one question to a translator with a given stack;
* `Translator.session` — questions one after the other, each on the stack that the last
  one left.
-/

namespace ChainApi

/-- What a translator works on. -/
structure Workspace where
  /-- The names of the definitions that are being expressed, outermost first. -/
  opened : List String := []
  /-- The notices given so far. -/
  log : List Notice := []
  deriving DecidableEq, Repr

/-- Work on a workspace.  After a failure the workspace is what the failure left; there is
no workspace if there is no room for a definition on the stack. -/
abbrev Translating := ExceptT SchemaCycle (StateT Workspace Option)

namespace Translating

/-- Give one notice. -/
def note (n : Notice) : Translating PUnit := modify fun w => { w with log := w.log ++ [n] }

/-- Open a definition, which must not be open yet. -/
def enter (name : String) : Translating PUnit := do
  let w ← get
  if name ∈ w.opened then throw ⟨w.opened ++ [name]⟩
  set { w with opened := w.opened ++ [name] }

/-- There is no room for another definition. -/
def overflow {α : Type} : Translating α := ExceptT.mk fun _ => none

/-- Close the definition that was opened last. -/
def leave : StateT Workspace Option PUnit :=
  modify fun w => { w with opened := w.opened.dropLast }

end Translating

open Translating

/-- A translator for the schemas of one document. -/
structure Translator where
  document : Document
  options : Options

namespace Translator

/-! ## expressing -/

mutual

/-- Express a schema, with room for so many more definitions on the stack. -/
def translate (t : Translator) (room : Nat) (s : Schema) : Translating Annotated :=
  match s.ref with
  | none => t.translateShape room s
  | some pointer =>
    match t.document.resolve pointer with
    | none => pure ⟨.unknown, none⟩
    | some target =>
      if t.options.resolveRefs then
        match room with
        | 0 => overflow
        | room + 1 => do
          enter (referenceName pointer)
          -- the definition is left on failure, too
          (do
            let outcome ← ExceptT.run (t.translate room target)
            leave
            pure outcome : StateT Workspace Option (Except SchemaCycle Annotated))
      else t.translateShape room s
termination_by (room, sizeOf s, 1)
decreasing_by
  · exact Prod.Lex.right _ (Prod.Lex.right _ Nat.zero_lt_one)
  · exact Prod.Lex.left _ _ (Nat.lt_succ_self _)
  · exact Prod.Lex.right _ (Prod.Lex.right _ Nat.zero_lt_one)

/-- Express a schema by its kind, with no regard to a reference on it. -/
def translateShape (t : Translator) (room : Nat) (s : Schema) : Translating Annotated :=
  match s.kind with
  | .object => do
    let fields ← t.translateFields room s.fields
    pure ⟨.object fields, s.comment⟩
  | .array =>
    match h : s.items with
    | none => pure ⟨.array .unknown, s.comment⟩
    | some items => do
      have := Schema.sizeOf_items h
      let item ← t.translate room items
      pure ⟨.array item.type, s.comment⟩
  | .number => pure ⟨.number, s.comment⟩
  | .string => pure ⟨.string, s.comment⟩
  | .boolean => pure ⟨.boolean, s.comment⟩
  | .other name => do
    note (.kindUnsupported name)
    pure ⟨.unknown, s.comment⟩
termination_by (room, sizeOf s, 0)
decreasing_by
  · exact Prod.Lex.right _ (Prod.Lex.left _ _ s.sizeOf_fields)
  · exact Prod.Lex.right _ (Prod.Lex.left _ _ this)

/-- Express the properties of an object, in order. -/
def translateFields (t : Translator) (room : Nat) (fields : List (String × Schema)) :
    Translating (List (Option String × String × TypeExpr)) :=
  match fields with
  | [] => pure []
  | (name, s) :: rest =>
    if name = typeTag then do
      let fields ← t.translateFields room rest
      pure ((none, name, .string) :: fields)
    else do
      let a ← t.translate room s
      let fields ← t.translateFields room rest
      pure ((a.comment, name, a.type) :: fields)
termination_by (room, sizeOf fields, 0)
decreasing_by
  all_goals exact Prod.Lex.right _ (Prod.Lex.left _ _ (by
    simp only [List.cons.sizeOf_spec, Prod.mk.sizeOf_spec]
    omega))

end

/-- How many definitions there can be on the stack at the same time.  No name stands on it
twice, so that they cannot be more than there are; one more is tried. -/
def room (t : Translator) : Nat := t.document.definitions.keys.length + 1

/-- Express a node that may be absent, with its comment in front. -/
def node (t : Translator) : Option Schema → Translating String
  | none => pure TypeExpr.unknown.text
  | some s => do
    let a ← t.translate t.room s
    pure a.text

/-- The property that a parameter becomes, and the section it belongs to. -/
def property (t : Translator) (p : Parameter) :
    Translating (Option (ParameterSection × Property)) :=
  match p.name with
  | none => do
    note (.parameterUnnamed p.location)
    pure none
  | some name =>
    if p.location = some "path" then
      pure (some (.path, ⟨p.description, displayName name, p.primitiveType⟩))
    else if p.location = some "query" then
      pure (some (.query, ⟨p.description, displayName name, p.primitiveType⟩))
    else if p.location = some "body" then do
      let type ← t.node p.schema
      let place := match t.options.bodyParams with
        | .query => .query
        | .body => .body
      pure (some (place, ⟨p.description, quoted name, type⟩))
    else do
      note (.parameterMisplaced name p.location)
      pure none

/-- The properties that the parameters of a list become, in order. -/
def properties (t : Translator) :
    List Parameter → Translating (List (ParameterSection × Property))
  | [] => pure []
  | p :: ps => do
    let first ← t.property p
    let rest ← t.properties ps
    pure (first.toList ++ rest)

/-- The types of a list of parameters, which may be absent. -/
def parameters (t : Translator) (ps : Option (List Parameter)) : Translating ParameterTypes := do
  let ps ← t.properties (ps.getD [])
  pure ⟨objectType (sectionOf .path ps), objectType (sectionOf .query ps),
    objectType (sectionOf .body ps)⟩

/-! ## questions -/

/-- A question to a translator. -/
inductive Call where
  | schema (s : Schema)
  | node (node : Option Schema)
  | parameters (ps : Option (List Parameter))

/-- What a question is answered with. -/
inductive Answer where
  | annotated (a : Annotated)
  | text (s : String)
  | types (types : ParameterTypes)

/-- Work out the answer to a question. -/
def answer (t : Translator) : Call → Translating Answer
  | .schema s => .annotated <$> t.translate t.room s
  | .node n => .text <$> t.node n
  | .parameters ps => .types <$> t.parameters ps

/-- What there is after a question: the answer or the failure with the notices given for
it, and the stack. -/
structure Reply where
  answer : Logged SchemaCycle Answer
  opened : List String

/-- Ask a translator on whose stack the given names are.  There is no reply if the stack
has no room. -/
def call (t : Translator) (opened : List String) (c : Call) : Option Reply := do
  let (outcome, w) ← (t.answer c).run.run { opened }
  some ⟨⟨w.log, outcome⟩, w.opened⟩

/-- Ask the questions of a list, each on the stack that the one before it left. -/
def session (t : Translator) (opened : List String) : List Call → Option (List Reply)
  | [] => some []
  | c :: cs => do
    let r ← t.call opened c
    let rs ← t.session r.opened cs
    some (r :: rs)

end Translator

end ChainApi
