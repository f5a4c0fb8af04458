/-!
# ChainApi.Notice

What a run reports besides its result.  A notice is a cause, not a text: the
wording is in `Notice.message`, and how much it matters in `Notice.severity`.
-/

namespace ChainApi

/-- How much a notice matters, from least to most. -/
inductive Severity where
  | debug
  | info
  | warning
  deriving DecidableEq, Repr

namespace Severity

/-- The place of a severity in the order. -/
def rank : Severity → Nat
  | debug => 0
  | info => 1
  | warning => 2

/-- The name under which a severity is shown. -/
def label : Severity → String
  | debug => "DEBUG"
  | info => "INFO"
  | warning => "WARNING"

end Severity

/-- Something worth telling the user that is not a failure. -/
inductive Notice where
  /-- A document file is about to be read. -/
  | loading (path : String)
  /-- A path declares neither of the two supported methods. -/
  | pathSkipped (path chain : String) (declared : List String)
  /-- A later operation of one document carries an id already taken. -/
  | operationRepeated (operationId chain : String)
  /-- A parameter points at a shared parameter that is not there. -/
  | parameterDangling (pointer path chain : String)
  /-- A parameter has no name. -/
  | parameterUnnamed (location : Option String)
  /-- A parameter is neither in the path nor in the query nor in the body. -/
  | parameterMisplaced (name : String) (location : Option String)
  /-- A schema is of a kind that has no counterpart among the types. -/
  | kindUnsupported (kind : String)
  /-- Two chains disagree on the method of an operation. -/
  | methodConflict (operationId kept other : String)
  /-- A document has been read into a catalogue. -/
  | extracted (count : Nat) (chain : String)
  /-- A server answered with a status that is no success. -/
  | requestRefused (server url : String) (status : Nat)
  deriving DecidableEq, Repr

namespace Notice

/-- An absent text is shown as `None`. -/
def shown (text : Option String) : String := text.getD "None"

/-- How much a notice matters. -/
def severity : Notice → Severity
  | loading .. => .debug
  | extracted .. => .info
  | _ => .warning

/-- Does a notice matter at least as much as the least that is shown? -/
def isShown (least : Severity) (n : Notice) : Bool := least.rank ≤ n.severity.rank

/-- The wording of a notice. -/
def message : Notice → String
  | loading path => "Loading " ++ path
  | pathSkipped path chain declared =>
    let declared := if declared.isEmpty then "none" else ", ".intercalate declared
    "Skipping '" ++ path ++ "' on chain '" ++ chain ++
      "': only get and post are supported (declared: " ++ declared ++ ")"
  | operationRepeated operationId chain =>
    "Duplicate operationId '" ++ operationId ++ "' on chain '" ++ chain ++
      "', keeping the first one"
  | parameterDangling pointer path chain =>
    "Ignoring parameter '" ++ pointer ++ "' of '" ++ path ++ "' on chain '" ++ chain ++
      "': no such shared parameter"
  | parameterUnnamed location =>
    "Ignoring parameter without a name (in: " ++ shown location ++ ")"
  | parameterMisplaced name location =>
    "Ignoring parameter '" ++ name ++ "' with unsupported location '" ++ shown location ++ "'"
  | kindUnsupported kind => "Unsupported schema type '" ++ kind ++ "', emitting unknown"
  | methodConflict operationId kept other =>
    "Operation '" ++ operationId ++ "' is '" ++ kept ++ "' on some chains and '" ++ other ++
      "' on others, keeping '" ++ kept ++ "'"
  | extracted count chain =>
    "Extracted " ++ toString count ++ " operations for chain '" ++ chain ++ "'"
  | requestRefused server url status =>
    server ++ " request to " ++ url ++ " returned " ++ toString status

end Notice

end ChainApi
