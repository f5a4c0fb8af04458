import ChainApi.Catalogue.Build
import ChainApi.CommandLine.Request
import ChainApi.Declarations
import ChainApi.Document.Load
import ChainApi.Exchange

/-!
# ChainApi.CommandLine

A run of the program, as a function of its arguments and of everything it sees:
the environment, the files and the network.  The outcome holds all that it
leaves behind, the files included.

* `CommandLine.generate` — the types of the documents of a directory;
* `CommandLine.fetch` — a document saved to a file;
* `CommandLine.run` — a whole run.
-/

namespace ChainApi.CommandLine

/-- What a run leaves behind. -/
structure Outcome where
  exitCode : Nat := 0
  stdout : String := ""
  stderr : String := ""
  log : List Notice := []
  files : FileSystem
  /-- The failure that ended the run, if the program has no words for it. -/
  breakdown : Option Breakdown := none

/-- Why a run ends early. -/
inductive Failure where
  /-- The user is told why. -/
  | told (message : String)
  | breakdown (b : Breakdown)
  deriving DecidableEq, Repr

namespace Failure

/-- A document that cannot be loaded. -/
def ofLoad : LoadError → Failure
  | .document e => told e.message
  | .breakdown b => breakdown b

/-- A document that cannot be fetched. -/
def ofFetch : FetchError → Failure
  | .invalidUrl => breakdown .invalidUrl
  | .notEncodable => breakdown .notEncodable
  | e => told e.message

end Failure

/-- The outcome of a run that ends early. -/
def Outcome.ofFailure (stdout : String) (log : List Notice) (files : FileSystem) :
    Failure → Outcome
  | .told message =>
    let shown := Text.mapHalves (fun n => '\\' :: 'u' :: Text.hex 4 n) message
    { exitCode := 1, stdout, stderr := "Error: " ++ shown ++ "\n", log, files }
  | .breakdown b => { exitCode := 1, stdout, log, files, breakdown := some b }

/-- Write a text to a file.  A text that holds half of a surrogate pair cannot be
written, but the file is there, and empty. -/
def writeText (files : FileSystem) (output : Path) (text : String) :
    FileSystem × Except Breakdown Unit :=
  let bytes := Text.Utf8.encodeText? text
  match files.write output (bytes.getD []) with
  | (files, .error e) => (files, .error (.file e))
  | (files, .ok ()) => (files, if bytes.isSome then .ok () else .error .notEncodable)

/-- Generate the types of the documents of a directory. -/
def generate (files : FileSystem) (directory output : Path) (options : Options) : Outcome :=
  let reading := "Reading Swagger files from " ++ directory.text ++ "...\n"
  let loaded := Document.loadDirectory files directory
  match loaded.outcome with
  | .error e => .ofFailure reading loaded.log files (.ofLoad e)
  | .ok chains =>
    let found := reading ++ "Found " ++ toString chains.length ++ " chains: " ++
      ", ".intercalate (chains.map Prod.fst) ++ "\n"
    let built := Catalogue.build options chains
    let log := loaded.log ++ built.log
    match built.outcome with
    | .error e => .ofFailure found log files (.told e.message)
    | .ok catalogue =>
      match writeText files output (catalogue.emit options.pagination) with
      | (files, .error b) => .ofFailure found log files (.breakdown b)
      | (files, .ok ()) =>
        let stdout := found ++ "Generated " ++ toString catalogue.size ++ " operations for " ++
          toString catalogue.chainNames.length ++ " chains in " ++ output.text ++ "\n"
        { stdout, log, files }

/-- Save the document at an address. -/
def fetch (files : FileSystem) (network : Network) (url : String) (output : Path) : Outcome :=
  let downloading := "Downloading " ++ url ++ "...\n"
  match Exchange.fetch network url with
  | .error e => .ofFailure downloading [] files (.ofFetch e)
  | .ok text =>
    match writeText files output text with
    | (files, .error b) => .ofFailure downloading [] files (.breakdown b)
    | (files, .ok ()) => { stdout := downloading ++ "Saved to " ++ output.text ++ "\n", files }

/-- Do what is asked for.  Unless everything is to be reported, notices below a
warning are dropped. -/
def perform (files : FileSystem) (network : Network) : Request → Outcome
  | .help form => { stdout := form.help, files }
  | .generate directory output options verbose =>
    let outcome := generate files directory output options
    let least : Severity := if verbose then .debug else .warning
    { outcome with log := outcome.log.filter (Notice.isShown least) }
  | .fetch url output => fetch files network url output

/-- Run the program. -/
def run (arguments : List String) (environment : Environment) (files : FileSystem)
    (network : Network) : Outcome :=
  match Request.ofArguments environment files arguments with
  | .error ⟨_, .brokenPath⟩ => { exitCode := 1, files, breakdown := some (.file .zero) }
  | .error e => { exitCode := 2, stderr := e.text, files }
  | .ok request => perform files network request

@[simp] theorem files_ofFailure (stdout : String) (log : List Notice) (files : FileSystem)
    (failure : Failure) : (Outcome.ofFailure stdout log files failure).files = files := by
  cases failure <;> rfl

end ChainApi.CommandLine
