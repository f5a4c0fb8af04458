import ChainApi.Catalogue.Build

/-!
# ChainApi.Catalogue.Session

A session holds catalogues under names.  A command stores a catalogue under a
name, or changes one field of a record of a stored catalogue; a command that
fails leaves the session as it was.

The types in a record are values, but an endpoint is an object, which may change
its fields and stay the same object.  A merge copies the records that it finds in
one catalogue only, and those of the left one.  Where an operation is in both
catalogues, it takes the endpoints that the left one lacks from the right one as
they are, so that both catalogues hold the same objects from then on.  That is why
endpoints are kept in cells, and why a record holds cells in their place.

* `StoredCatalogue.view` — a stored catalogue as it shows;
* `StoredCatalogue.merge` — what a merge copies, and what it takes as it is;
* `Edit.apply` — a change of one field of one record, as it shows;
* `Session.run`, `Session.perform` — one command, and commands in order.
-/

namespace ChainApi

/-! ## changes -/

/-- The columns of a record that hold a type for each chain. -/
inductive Column where
  | path
  | query
  | body
  | success
  | error
  deriving DecidableEq, Repr

/-- The fields of an endpoint. -/
inductive EndpointField where
  | path
  | comment
  deriving DecidableEq, Repr

/-- Change one field of an endpoint. -/
def EndpointField.set (text : String) (e : Endpoint) : EndpointField → Endpoint
  | path => { e with path := text }
  | comment => { e with comment := text }

/-- A change of one field of a record. -/
inductive Edit where
  | method (method : Method)
  | comment (comment : Option String)
  | type (column : Column) (chain type : String)
  /-- Put a new endpoint in the place of the one that is there, if any. -/
  | endpoint (chain : String) (endpoint : Endpoint)
  /-- Change a field of the endpoint that is there. -/
  | within (chain : String) (field : EndpointField) (text : String)
  deriving DecidableEq, Repr

/-- Change one field of a record. -/
def Edit.apply (edit : Edit) (r : OperationTypes) : OperationTypes :=
  match edit with
  | method m => { r with method := m }
  | comment c => { r with comment := c }
  | type .path chain t => { r with path := r.path.insert chain t }
  | type .query chain t => { r with query := r.query.insert chain t }
  | type .body chain t => { r with body := r.body.insert chain t }
  | type .success chain t => { r with success := r.success.insert chain t }
  | type .error chain t => { r with error := r.error.insert chain t }
  | endpoint chain e => { r with endpoint := r.endpoint.insert chain e }
  | within chain field text =>
    { r with
      endpoint := r.endpoint.mapWithKey fun c e => if c = chain then field.set text e else e }

/-! ## stored catalogues -/

/-- What an endpoint is kept in.  It is told by the number of the command that stored the
endpoint, and by the operation and the chain that it is for. -/
structure Cell where
  serial : Nat
  operationId : String
  chain : String
  deriving DecidableEq, Repr

/-- What the cells hold. -/
abbrev Memory := Cell → Endpoint

/-- The memory with an endpoint in a cell. -/
def Memory.set (m : Memory) (cell : Cell) (e : Endpoint) : Memory :=
  fun c => if c = cell then e else m c

@[simp] theorem Memory.set_self (m : Memory) (cell : Cell) (e : Endpoint) :
    m.set cell e cell = e := if_pos rfl

theorem Memory.set_of_ne {m : Memory} {c cell : Cell} (h : c ≠ cell) (e : Endpoint) :
    m.set cell e c = m c := if_neg h

/-- A record as it is stored. -/
structure StoredOperation where
  method : Method
  comment : Option String := none
  /-- For each chain, the number of the command that stored the endpoint. -/
  serials : Table Nat := ∅
  path : Table String := ∅
  query : Table String := ∅
  body : Table String := ∅
  success : Table String := ∅
  error : Table String := ∅
  deriving DecidableEq, Inhabited

namespace StoredOperation

/-- A record as it shows. -/
def view (m : Memory) (id : String) (r : StoredOperation) : OperationTypes where
  method := r.method
  comment := r.comment
  endpoint := r.serials.mapWithKey fun chain serial => m ⟨serial, id, chain⟩
  path := r.path
  query := r.query
  body := r.body
  success := r.success
  error := r.error

/-- A record all of whose endpoints are stored by one command. -/
def ofTypes (serial : Nat) (r : OperationTypes) : StoredOperation where
  method := r.method
  comment := r.comment
  serials := r.endpoint.map fun _ => serial
  path := r.path
  query := r.query
  body := r.body
  success := r.success
  error := r.error

/-- A copy of a record, whose endpoints are all stored by one command. -/
def renew (serial : Nat) (r : StoredOperation) : StoredOperation :=
  { r with serials := r.serials.map fun _ => serial }

/-- Two records of one operation together, with the endpoints that they hold. -/
def merge (a b : StoredOperation) : StoredOperation where
  method := a.method
  comment := a.comment.or b.comment
  serials := a.serials.union b.serials
  path := a.path.union b.path
  query := a.query.union b.query
  body := a.body.union b.body
  success := a.success.union b.success
  error := a.error.union b.error

/-- Change one field of a record.  A new endpoint is stored by the command with this number;
a change within an endpoint leaves the record as it is. -/
def edit (serial : Nat) (r : StoredOperation) : Edit → StoredOperation
  | .method m => { r with method := m }
  | .comment c => { r with comment := c }
  | .type .path chain t => { r with path := r.path.insert chain t }
  | .type .query chain t => { r with query := r.query.insert chain t }
  | .type .body chain t => { r with body := r.body.insert chain t }
  | .type .success chain t => { r with success := r.success.insert chain t }
  | .type .error chain t => { r with error := r.error.insert chain t }
  | .endpoint chain _ => { r with serials := r.serials.insert chain serial }
  | .within .. => r

end StoredOperation

/-- The operations of a stored catalogue. -/
abbrev StoredCatalogue := Table StoredOperation

namespace StoredCatalogue

/-- A stored catalogue as it shows. -/
def view (m : Memory) (c : StoredCatalogue) : Catalogue := c.mapWithKey (StoredOperation.view m)

/-- A catalogue all of whose endpoints are stored by one command. -/
def ofCatalogue (serial : Nat) (c : Catalogue) : StoredCatalogue :=
  c.map (StoredOperation.ofTypes serial)

/-- Two catalogues together.  The records of the left one and the new ones of the right one are
copied; where an operation is in both, the endpoints of the right one are taken as they are. -/
def merge (serial : Nat) (a b : StoredCatalogue) : StoredCatalogue :=
  Table.unionWith StoredOperation.merge (a.map (StoredOperation.renew serial))
    (b.mapWithKey fun id r => if a.contains id then r else r.renew serial)

end StoredCatalogue

/-- The endpoint of an operation for a chain. -/
def Catalogue.endpoint? (c : Catalogue) (id chain : String) : Option Endpoint :=
  (c.get? id).bind fun r => r.endpoint.get? chain

/-! ## sessions -/

/-- Catalogues by name. -/
structure Session where
  registers : Table StoredCatalogue := ∅
  memory : Memory := fun _ => default
  /-- The number of commands carried out so far. -/
  serial : Nat := 0

/-- Something to do with the stored catalogues. -/
inductive Command where
  /-- Store the catalogue of a document. -/
  | extract (into : String) (source : Source)
  /-- Store a catalogue as it is. -/
  | set (into : String) (catalogue : Catalogue)
  /-- Store two catalogues together. -/
  | merge (into left right : String)
  /-- Change one record of a stored catalogue. -/
  | edit (of operationId : String) (change : Edit)

/-- Why a command cannot be carried out. -/
inductive SessionError where
  | unknownRegister (name : String)
  | unknownOperation (operationId : String)
  | unknownChain (chain : String)
  | extraction (e : ExtractionError)
  deriving DecidableEq, Repr

/-- The name under which a command stores its catalogue. -/
def Command.target : Command → String
  | extract into _ => into
  | set into _ => into
  | merge into _ _ => into
  | edit of _ _ => of

namespace Session

/-- The catalogue under a name, as it shows. -/
def get? (s : Session) (name : String) : Option Catalogue :=
  (s.registers.get? name).map (StoredCatalogue.view s.memory)

/-- The catalogue under a name, which has to be there, as it is stored. -/
def stored (s : Session) (name : String) : Logged SessionError StoredCatalogue :=
  match s.registers.get? name with
  | some c => pure c
  | none => throw (.unknownRegister name)

/-- The catalogue under a name, which has to be there, as it shows. -/
def fetch (s : Session) (name : String) : Logged SessionError Catalogue := do
  let c ← s.stored name
  pure (c.view s.memory)

/-- Store a catalogue under a name, with what the cells hold from then on. -/
def put (s : Session) (name : String) (c : StoredCatalogue) (memory : Memory) : Session where
  registers := s.registers.insert name c
  memory := memory
  serial := s.serial + 1

/-- Store a catalogue under a name.  The endpoints that the command stores itself are those of
the catalogue as it is to show. -/
def issue (s : Session) (name : String) (c : StoredCatalogue) (shown : Catalogue) : Session :=
  s.put name c fun cell =>
    if cell.serial = s.serial then (shown.endpoint? cell.operationId cell.chain).getD default
    else s.memory cell

/-- What the cells hold after a change of one field of a record. -/
def rewrite (s : Session) (id : String) (r : StoredOperation) : Edit → Logged SessionError Memory
  | .endpoint chain e => pure (s.memory.set ⟨s.serial, id, chain⟩ e)
  | .within chain field text =>
    match r.serials.get? chain with
    | some n => pure (s.memory.set ⟨n, id, chain⟩ (field.set text (s.memory ⟨n, id, chain⟩)))
    | none => throw (.unknownChain chain)
  | _ => pure s.memory

/-- Carry out a command. -/
def run (s : Session) : Command → Logged SessionError Session
  | .extract into source => do
    let c ← source.extract.mapError .extraction
    pure (s.issue into (.ofCatalogue s.serial c) c)
  | .set into c => pure (s.issue into (.ofCatalogue s.serial c) c)
  | .merge into left right => do
    let a ← s.stored left
    let b ← s.stored right
    let shown := Catalogue.merge (a.view s.memory) (b.view s.memory)
    ⟨Catalogue.conflicts (a.view s.memory) (b.view s.memory),
      .ok (s.issue into (a.merge s.serial b) shown)⟩
  | .edit of id change => do
    let c ← s.stored of
    match c.get? id with
    | some r =>
      let memory ← s.rewrite id r change
      pure (s.put of (c.insert id (r.edit s.serial change)) memory)
    | none => throw (.unknownOperation id)

/-- Carry out commands in order.  One that fails is passed over. -/
def perform (s : Session) : List Command → Session
  | [] => s
  | command :: commands =>
    match (s.run command).outcome with
    | .ok t => t.perform commands
    | .error _ => s.perform commands

end Session

end ChainApi
