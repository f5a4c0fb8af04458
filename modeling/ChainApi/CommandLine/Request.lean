import ChainApi.CommandLine.Arguments
import ChainApi.FileSystem
import ChainApi.Options

/-!
# ChainApi.CommandLine.Request

What the user asks for.  The arguments are checked in the order in which a user
would look for the mistake: first the switches as given, then the operand, then
what was left out, and last whatever is too much.

* `Request` — what is asked for;
* `UsageError.text` — what the user is told otherwise;
* `Request.ofArguments` — the request that a list of arguments makes.
-/

namespace ChainApi.CommandLine

/-- The program itself and its two commands. -/
inductive Form where
  | main
  | generate
  | fetch
  deriving DecidableEq, Repr

/-- The switches of all forms. -/
inductive Key where
  | output
  | bodyParams
  | resolveRefs
  | pagination
  | verbose
  | help
  deriving DecidableEq, Repr

/-! ## forms -/

def outputSwitch : Switch Key :=
  { key := .output, letter := some 'o', word := "output", takesValue := true }

def verboseSwitch : Switch Key := { key := .verbose, letter := some 'v', word := "verbose" }

def helpSwitch : Switch Key := { key := .help, word := "help" }

namespace Form

/-- How a form is invoked. -/
def invocation : Form → String
  | main => "main"
  | generate => "main generate"
  | fetch => "main fetch"

/-- What follows an invocation. -/
def operands : Form → String
  | main => "[OPTIONS] COMMAND [ARGS]..."
  | generate => "[OPTIONS] INPUT_DIR"
  | fetch => "[OPTIONS] URL"

/-- The switches of a form. -/
def switches : Form → List (Switch Key)
  | main => [verboseSwitch, helpSwitch]
  | generate =>
    [outputSwitch, { key := .bodyParams, word := "body-params", takesValue := true },
      { key := .resolveRefs, word := "resolve-refs" },
      { key := .pagination, word := "pagination" }, verboseSwitch, helpSwitch]
  | fetch => [outputSwitch, helpSwitch]

/-- The line that says how a form is used. -/
def usage (form : Form) : String := "Usage: " ++ form.invocation ++ " " ++ form.operands ++ "\n"

/-- The page that explains a form. -/
def help (form : Form) : String :=
  let lines := match form with
    | main =>
      ["  Generate TypeScript types of REST APIs from the Swagger files of chains.", "",
        "Options:",
        "  -v, --verbose  Report everything that is done or skipped.",
        "  --help         Show this page.", "",
        "Commands:",
        "  fetch     Download the Swagger file of a chain.",
        "  generate  Generate the types from one Swagger file per chain."]
    | generate =>
      ["  Generate the types from one Swagger file per chain.", "",
        "Options:",
        "  -o, --output PATH           Where to write the types.  [required]",
        "  --body-params [query|body]  The parameter type that lists body parameters.",
        "  --resolve-refs              Follow references to the definitions.",
        "  --pagination                Add the pagination block to paginated operations.",
        "  -v, --verbose               Report everything that is done or skipped.",
        "  --help                      Show this page."]
    | fetch =>
      ["  Download the Swagger file of a chain.", "",
        "Options:",
        "  -o, --output PATH  Where to save the file, named after the chain.  [required]",
        "  --help             Show this page."]
  form.usage ++ "\n" ++ "\n".intercalate lines ++ "\n"

end Form

/-! ## mistakes -/

/-- A mistake in the arguments of a form. -/
inductive Mistake where
  /-- There are no arguments at all. -/
  | nothing
  | arguments (e : ArgumentError)
  | noCommand
  /-- There is no such command, but perhaps there are similar ones. -/
  | unknownCommand (name : String) (similar : List String)
  | operandMissing (name : String)
  | outputMissing
  /-- The operand leads nowhere. -/
  | noDirectory (name text : String)
  /-- The operand leads to a file. -/
  | fileGiven (name text : String)
  | notPlacement (text : String)
  /-- There are operands that nothing was asked for with. -/
  | superfluous (operands : List String)
  /-- A path that cannot even be looked up, since it holds the character zero. -/
  | brokenPath
  deriving DecidableEq, Repr

/-- The wording of the mistake. -/
def Mistake.message : Mistake → String
  | nothing => "Nothing to do."
  | arguments e => e.message
  | noCommand => "Missing command."
  | unknownCommand name similar =>
    "No such command " ++ Text.literal name ++ "." ++ suggestion similar
  | operandMissing name => "Missing argument '" ++ name ++ "'."
  | outputMissing => "Missing option '-o' / '--output'."
  | noDirectory name text =>
    "Invalid value for '" ++ name ++ "': Directory " ++ Text.literal text ++ " does not exist."
  | fileGiven name text =>
    "Invalid value for '" ++ name ++ "': Directory " ++ Text.literal text ++ " is a file."
  | notPlacement text =>
    "Invalid value for '--body-params': " ++ Text.literal text ++ " is not one of " ++
      ", ".intercalate (BodyPlacement.choices.map fun c => Text.literal c.1) ++ "."
  | superfluous operands =>
    "Got unexpected extra argument" ++ (if operands.length = 1 then "" else "s") ++ " (" ++
      " ".intercalate operands ++ ")"
  | brokenPath => "A path holds the character zero."

/-- A mistake, and where it was made. -/
structure UsageError where
  form : Form
  mistake : Mistake
  deriving DecidableEq, Repr

/-- What the user is told about a mistake. How the form is used is left out where
only a value is missing or too much. -/
def UsageError.text (e : UsageError) : String :=
  let complaint := "Error: " ++ e.mistake.message ++ "\n"
  match e.mistake with
  | .nothing => e.form.help
  | .arguments (.valueMissing _) | .arguments (.valueUnwanted _) => complaint
  | _ => e.form.usage ++ "Try '" ++ e.form.invocation ++ " --help' for help.\n\n" ++ complaint

/-! ## requests -/

/-- What the user asks for. -/
inductive Request where
  | help (form : Form)
  /-- Generate the types from the documents of a directory. -/
  | generate (directory output : Path) (options : Options) (verbose : Bool)
  /-- Save the document at an address. -/
  | fetch (url : String) (output : Path)
  deriving DecidableEq, Repr

/-- The values of the environment variables. -/
abbrev Environment := String → Option String

/-- The variable that stands in for the input directory. -/
def inputVariable : String := "INPUT_FOLDER_PATH"

/-- The variable that stands in for the output file. -/
def outputVariable : String := "OUT_FILE_PATH"

/-- The value of a variable, unless it is empty. -/
def Environment.value? (environment : Environment) (name : String) : Option String :=
  (environment name).filter (· != "")

/-- The texts in the arguments and the environment that may be paths. -/
def mentioned (environment : Environment) (arguments : List String) : List String :=
  let given := match scan Form.generate.switches true arguments with
    | .ok a => a.operands ++ a.given.map Prod.snd
    | .error _ => []
  given ++ [inputVariable, outputVariable].filterMap environment.value?

namespace Request

/-- Read a path. -/
def readPath (text : String) : Except Mistake Path :=
  if text.contains '\x00' then .error .brokenPath else .ok (Path.ofText text)

/-- Read an output path. -/
def readOutput (text : Option String) : Except Mistake Path :=
  match text with
  | some text => readPath text
  | none => .error .outputMissing

/-- Read the place of body parameters. -/
def readPlacement (text : Option String) : Except Mistake BodyPlacement :=
  match text with
  | none => .ok .query
  | some text =>
    match BodyPlacement.choices.lookup text with
    | some placement => .ok placement
    | none => .error (.notPlacement text)

/-- Read the path of a directory, which has to be there. -/
def readDirectory (files : FileSystem) (name : String) (text : Option String) :
    Except Mistake Path :=
  match text with
  | none => .error (.operandMissing name)
  | some text => do
    let directory ← readPath text
    match files.findWritten text with
    | .ok .directory => .ok directory
    | .ok (.file _) => .error (.fileGiven name text)
    | .error _ => .error (.noDirectory name text)

/-- There must be no operand but the first. -/
def checkOperands (a : Arguments Key) : Except Mistake Unit :=
  match a.operands.drop 1 with
  | [] => .ok ()
  | operands => .error (.superfluous operands)

/-- The request to generate types. -/
def ofGenerate (environment : Environment) (files : FileSystem) (arguments : List String) :
    Except Mistake Request := do
  let a ← (scan Form.generate.switches true arguments).mapError .arguments
  if a.has .help then return .help .generate
  let output := readOutput ((a.value? .output).or (environment.value? outputVariable))
  let placement := readPlacement (a.value? .bodyParams)
  a.given.forM fun given =>
    match given.1 with
    | .output => discard output
    | .bodyParams => discard placement
    | _ => pure ()
  let directory ← readDirectory files "INPUT_DIR"
    (a.operands.head?.or (environment.value? inputVariable))
  let output ← output
  let placement ← placement
  checkOperands a
  let options : Options := ⟨placement, a.has .resolveRefs, a.has .pagination⟩
  return .generate directory output options (a.has .verbose)

/-- The request to save a document. -/
def ofFetch (arguments : List String) : Except Mistake Request := do
  let a ← (scan Form.fetch.switches true arguments).mapError .arguments
  if a.has .help then return .help .fetch
  let output := readOutput (a.value? .output)
  if a.has .output then discard output
  let url ← match a.operands.head? with
    | some url => pure url
    | none => throw (.operandMissing "URL")
  let output ← output
  checkOperands a
  return .fetch url output

/-- The names of the commands. -/
def commands : List String := ["fetch", "generate"]

/-- The request of a command and its arguments. -/
def ofCommand (environment : Environment) (files : FileSystem) (name : String)
    (arguments : List String) : Except UsageError Request :=
  match name with
  | "generate" => (ofGenerate environment files arguments).mapError fun m => ⟨.generate, m⟩
  | "fetch" => (ofFetch arguments).mapError fun m => ⟨.fetch, m⟩
  | _ =>
    match scan Form.main.switches false (name :: arguments) with
    | .error e => .error ⟨.main, .arguments e⟩
    | .ok a =>
      if a.has .help then .ok (.help .main)
      else .error ⟨.main, .unknownCommand name (Text.Similar.closest name commands)⟩

/-- A request with everything reported. -/
def verbosely : Request → Request
  | generate directory output options _ => .generate directory output options true
  | r => r

/-- The request that a list of arguments makes. -/
def ofArguments (environment : Environment) (files : FileSystem) (arguments : List String) :
    Except UsageError Request :=
  if arguments.isEmpty then .error ⟨.main, .nothing⟩
  else
    match scan Form.main.switches false arguments with
    | .error e => .error ⟨.main, .arguments e⟩
    | .ok a =>
      if a.has .help then .ok (.help .main)
      else
        match a.operands with
        | [] => .error ⟨.main, .noCommand⟩
        | name :: rest =>
          (ofCommand environment files name rest).map fun r =>
            if a.has .verbose then r.verbosely else r

end Request

end ChainApi.CommandLine
