import ChainApi.CommandLine

/-!
# ChainApi.Main

The program.  It collects what its arguments may lead to, lets `CommandLine.run`
decide what comes of that, and carries it out.  There is no transport to servers
here, so that every download ends as one from a server that cannot be reached.
-/

namespace ChainApi

/-- A place as the operating system writes it. -/
def placeText (place : List String) : String := "/" ++ "/".intercalate place

/-- Add what stands at a place. -/
def survey (files : FileSystem) (place : List String) : IO FileSystem := do
  let path := (← IO.currentDir) / placeText place
  if ← path.isDir then return files.put place .directory
  if ← path.pathExists then
    return files.put place (.file (← IO.FS.readBinFile path).data.toList)
  return files

/-- Add the documents of the directory at a place. -/
def surveyDocuments (files : FileSystem) (place : List String) : IO FileSystem := do
  let path := (← IO.currentDir) / placeText place
  unless ← path.isDir do return files
  let names := (← path.readDir).toList.map fun entry => entry.fileName
  let documents := names.filter fun name => Document.isDocumentPath (Path.ofText name)
  documents.foldlM (fun files name => survey files (place ++ [name])) files

/-- Add what a text leads to, if it is a path. -/
def surveyText (files : FileSystem) (text : String) : IO FileSystem := do
  let place := files.locate (Path.ofText text)
  let ways := (List.range (place.length + 1)).map place.take
  let files ← ways.foldlM survey files
  surveyDocuments files place

/-- Carry out what distinguishes the files of `after` from those of `before`. -/
def carryOut (before after : FileSystem) : IO Unit :=
  after.entries.forM fun (place, entry) => do
    unless before.entries.lookup place = some entry do
      match entry with
      | .directory => IO.FS.createDirAll (placeText place)
      | .file content => IO.FS.writeBinFile (placeText place) ⟨content.toArray⟩

end ChainApi

open ChainApi CommandLine in
/-- Run the program with the given arguments. -/
def main (arguments : List String) : IO UInt32 := do
  let settings ← [inputVariable, outputVariable].mapM fun name => do
    return (name, ← IO.getEnv name)
  let environment : Environment := fun name => (settings.lookup name).join
  let here := Path.ofText (← IO.currentDir).toString
  let files ← (mentioned environment arguments).foldlM surveyText
    { workingDirectory := here.segments }
  let outcome := run arguments environment files fun _ => .unreachable "No transport"
  carryOut files outcome.files
  IO.print outcome.stdout
  for notice in outcome.log do
    IO.eprintln (notice.severity.label ++ " " ++ notice.message)
  IO.eprint outcome.stderr
  if let some breakdown := outcome.breakdown then IO.eprintln (reprStr breakdown)
  return outcome.exitCode.toUInt32
