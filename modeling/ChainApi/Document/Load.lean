import ChainApi.Document.Reader
import ChainApi.FileSystem
import ChainApi.Format
import ChainApi.Logged
import ChainApi.Yaml

/-!
# ChainApi.Document.Load

Documents from decoded data, from files and from directories.  A file is UTF-8
text in YAML, of which JSON is meant to be a part.  A directory holds one file
per chain, named after the chain.

* `Document.parse` — the document of decoded data;
* `Document.load` — the document of a file;
* `Document.loadDirectory` — the documents of a directory, by chain.
-/

namespace ChainApi

/-- What is wrong with a document. -/
inductive DocumentError where
  /-- The data is in another format. -/
  | unsupportedFormat (source : String) (format : Format)
  /-- The text is no YAML. -/
  | undecodable (source : String)
  /-- The data does not fit the format. -/
  | illFitting (source : String) (problems : List Problem)
  /-- A directory holds no documents. -/
  | noFiles (directory : String)
  deriving DecidableEq, Repr

/-- How many problems there are, and with which record. -/
def problemCount (n : Nat) (record : String) : String :=
  toString n ++ (if n = 1 then " validation error for " else " validation errors for ") ++ record

/-- The wording of the failure. -/
def DocumentError.message : DocumentError → String
  | unsupportedFormat source format =>
    source ++ ": expected a Swagger 2.0 document, got '" ++ format.label ++ "'"
  | undecodable source => source ++ ": not a YAML document"
  | illFitting source problems =>
    source ++ ": " ++ problemCount problems.length "SourceDocument"
  | noFiles directory => "There isn't any Swagger file inside '" ++ directory ++ "'"

/-- A failure for which the program has no words of its own. -/
inductive Breakdown where
  /-- A file is not UTF-8. -/
  | notUnicode
  /-- A YAML text denotes nothing. -/
  | yaml (fault : Yaml.Fault)
  /-- The version of a document is too long to be written out. -/
  | longVersion
  /-- A text holds half of a surrogate pair, so that it is not UTF-8 either. -/
  | notEncodable
  /-- A file cannot be read or written. -/
  | file (e : FileError)
  /-- An address is none. -/
  | invalidUrl
  deriving DecidableEq, Repr

/-- Why a document cannot be loaded. -/
inductive LoadError where
  | document (e : DocumentError)
  | breakdown (b : Breakdown)
  deriving DecidableEq, Repr

namespace Document

/-- The document of decoded data that comes from `source`. -/
def parse (data : Data) (source : String) : Except DocumentError Document :=
  match Format.detect data.value with
  | .swagger2 => (Document.read data).toExcept.mapError (.illFitting source)
  | format => .error (.unsupportedFormat source format)

/-- The document of a text that comes from `source`. -/
def ofText (text source : String) : Except LoadError Document :=
  match Yaml.parse text with
  | .ok data =>
    if Format.isLegible data then (parse data source).mapError .document
    else .error (.breakdown .longVersion)
  | .error .malformed => .error (.document (.undecodable source))
  | .error fault => .error (.breakdown (.yaml fault))

/-- The document of a file. -/
def load (fs : FileSystem) (p : Path) : Except LoadError Document :=
  match fs.read p with
  | .error e => .error (.breakdown (.file e))
  | .ok content =>
    match Text.Utf8.decode? content with
    | none => .error (.breakdown .notUnicode)
    | some text => ofText text p.text

/-- The suffixes of the files that hold documents, in lower case. -/
def suffixes : List String := [".yaml", ".yml", ".json"]

/-- Is this the name of a file that holds a document? -/
def isDocumentPath (p : Path) : Bool := suffixes.contains (p.suffix.map Char.toLower)

/-- Names in the order of their code points. -/
def sortNames (names : List String) : List String :=
  names.mergeSort fun a b => decide (Text.AtMost a b)

/-- The files of a directory that hold documents, in the order of their names.  Every
entry is looked up for that, also one that holds no document. -/
def files (fs : FileSystem) (directory : Path) : Except FileError (List Path) := do
  let names ← fs.list directory
  let paths := (sortNames names).map directory.child
  paths.forM fun p => FileSystem.checkText p.text
  return paths.filter fun p => fs.isFile p && isDocumentPath p

/-- The documents of some files, each with the name of its chain. -/
def loadFiles (fs : FileSystem) : List Path → Logged LoadError (List (String × Document))
  | [] => pure []
  | p :: ps => do
    Logged.note (.loading p.text)
    let document ← Logged.ofExcept (load fs p)
    let rest ← loadFiles fs ps
    pure ((p.stem, document) :: rest)

/-- The documents of a directory, each with the name of its chain. -/
def loadDirectory (fs : FileSystem) (directory : Path) :
    Logged LoadError (List (String × Document)) :=
  match files fs directory with
  | .error e => throw (.breakdown (.file e))
  | .ok [] => throw (.document (.noFiles directory.text))
  | .ok ps => loadFiles fs ps

end Document

end ChainApi
