import ChainApi.Text.Similar
import ChainApi.Value.Text

/-!
# ChainApi.CommandLine.Arguments

What a list of arguments says.  An argument that starts with a dash is a switch;
the others are operands.  Switches are declared beforehand, and a switch that is
declared to take a value takes the rest of its argument or else the next one.

* `Switch` — a declared switch;
* `readSwitch` — one argument that starts with a dash;
* `scan` — a whole list of arguments;
* `scan_dashes` — after `--` there are only operands.
-/

namespace ChainApi.CommandLine

/-- A declared switch. -/
structure Switch (κ : Type) where
  key : κ
  /-- The letter under which it is given after one dash. -/
  letter : Option Char := none
  /-- The word under which it is given after two dashes. -/
  word : String
  takesValue : Bool := false
  deriving DecidableEq, Repr

/-- The word of a switch with its dashes. -/
def Switch.longName (s : Switch κ) : String := "--" ++ s.word

/-- What is wrong with a list of arguments. -/
inductive ArgumentError where
  /-- There is no such switch, but perhaps there are similar ones. -/
  | unknownSwitch (name : String) (similar : List String)
  | valueMissing (name : String)
  | valueUnwanted (name : String)
  deriving DecidableEq, Repr

/-- The question whether something else was meant; empty if there is nothing similar. -/
def suggestion : List String → String
  | [] => ""
  | [word] => " Did you mean " ++ Text.literal word ++ "?"
  | words => " (Did you mean one of: " ++ ", ".intercalate (words.map Text.literal) ++ "?)"

/-- The wording of the failure. -/
def ArgumentError.message : ArgumentError → String
  | unknownSwitch name similar =>
    "No such option " ++ Text.literal name ++ "." ++ suggestion similar
  | valueMissing name => "Option " ++ Text.literal name ++ " requires an argument."
  | valueUnwanted name => "Option " ++ Text.literal name ++ " does not take a value."

/-- What a list of arguments says. -/
structure Arguments (κ : Type) where
  /-- The switches in the order in which they are given.  One that takes no value
  stands with an empty text. -/
  given : List (κ × String) := []
  operands : List String := []
  deriving DecidableEq, Repr

namespace Arguments

variable {κ : Type} [BEq κ]

/-- Is a switch given? -/
def has (a : Arguments κ) (key : κ) : Bool := a.given.any fun g => g.1 == key

/-- The value of a switch: the last one counts. -/
def value? (a : Arguments κ) (key : κ) : Option String := a.given.reverse.lookup key

/-- Further switches in front of a list of arguments. -/
def after (given : List (κ × String)) (a : Arguments κ) : Arguments κ :=
  { a with given := given ++ a.given }

end Arguments

/-- What a single argument says: the switches that are complete, and then possibly
one whose value is the next argument, with its name. -/
structure Reading (κ : Type) where
  given : List (κ × String) := []
  waiting : Option (κ × String) := none
  deriving DecidableEq, Repr

section

variable {κ : Type}

/-- The letters after a single dash. -/
def readLetters (switches : List (Switch κ)) : List Char → Except ArgumentError (Reading κ)
  | [] => .ok {}
  | c :: cs =>
    let name := String.ofList ['-', c]
    match switches.find? fun s => s.letter == some c with
    | none => .error (.unknownSwitch name [])
    | some s =>
      if s.takesValue then
        if cs.isEmpty then .ok { waiting := some (s.key, name) }
        else .ok { given := [(s.key, String.ofList cs)] }
      else
        (readLetters switches cs).map fun r => { r with given := (s.key, "") :: r.given }

/-- An argument that starts with a dash. A value may be attached with an equals
sign to a switch that is given by its word. -/
def readSwitch (switches : List (Switch κ)) (argument : String) :
    Except ArgumentError (Reading κ) :=
  let cs := argument.toList
  let name := String.ofList (cs.takeWhile (· != '='))
  let attached := (cs.dropWhile (· != '=')).drop 1
  let hasAttached := cs.contains '='
  match switches.find? fun s => s.longName == name with
  | some s =>
    if s.takesValue then
      if hasAttached then .ok { given := [(s.key, String.ofList attached)] }
      else .ok { waiting := some (s.key, name) }
    else if hasAttached then .error (.valueUnwanted name)
    else .ok { given := [(s.key, "")] }
  | none =>
    if ['-', '-'].isPrefixOf cs then
      .error (.unknownSwitch name (Text.Similar.closest name (switches.map (·.longName))))
    else readLetters switches (cs.drop 1)

/-- Does an argument start with a dash and say more than that? -/
def isSwitch (argument : String) : Bool :=
  match argument.toList with
  | '-' :: _ :: _ => true
  | _ => false

/-- Read a list of arguments. Where switches and operands are not `mixed`, the first
operand ends the switches. -/
def scan (switches : List (Switch κ)) (mixed : Bool) :
    List String → Except ArgumentError (Arguments κ)
  | [] => .ok {}
  | argument :: rest =>
    if argument = "--" then .ok { operands := rest }
    else if isSwitch argument then
      match readSwitch switches argument with
      | .error e => .error e
      | .ok ⟨given, none⟩ => (scan switches mixed rest).map (Arguments.after given)
      | .ok ⟨given, some (key, name)⟩ =>
        match rest with
        | [] => .error (.valueMissing name)
        | value :: rest =>
          (scan switches mixed rest).map (Arguments.after (given ++ [(key, value)]))
    else if mixed then
      (scan switches mixed rest).map fun a => { a with operands := argument :: a.operands }
    else .ok { operands := argument :: rest }

/-- After two dashes there are only operands. -/
@[simp] theorem scan_dashes (switches : List (Switch κ)) (mixed : Bool) (rest : List String) :
    scan switches mixed ("--" :: rest) = .ok { operands := rest } := by
  simp [scan]

end

end ChainApi.CommandLine
