/-!
# ChainApi.Path

Paths of files, as they are written and as they are taken apart.  Empty segments
and those that stand for the same directory are dropped, so that `x/./e` and
`x//e` are one path; segments that lead upwards are kept.

* `Path.ofText`, `Path.text` — reading and writing;
* `Path.suffix`, `Path.stem` — the two parts of a name.
-/

namespace ChainApi

/-- A path. -/
structure Path where
  /-- The slashes in front of a path that starts at the root; none for a path that
  starts at the working directory. -/
  root : String := ""
  segments : List String
  deriving DecidableEq, Repr, Inhabited

namespace Path

/-- The path that a text denotes. -/
def ofText (text : String) : Path :=
  let cs := text.toList
  let slashes := (cs.takeWhile (· == '/')).length
  let root := if slashes = 0 then "" else if slashes = 2 then "//" else "/"
  let segments := (cs.splitOn '/').filter fun p => !p.isEmpty && p != ['.']
  ⟨root, segments.map String.ofList⟩

/-- A path as it is written. -/
def text (p : Path) : String :=
  if p.root = "" && p.segments.isEmpty then "." else p.root ++ "/".intercalate p.segments

/-- The last segment; empty if there is none. -/
def name (p : Path) : String := (p.segments.getLast?).getD ""

/-- The path without its last segment. -/
def parent (p : Path) : Path := { p with segments := p.segments.dropLast }

/-- The path of an entry of a directory. -/
def child (p : Path) (name : String) : Path := { p with segments := p.segments ++ [name] }

/-- The two parts of a name: up to its last point, and from there on.  There is a
second part only if something stands before the point and after it. -/
def splitName (name : List Char) : List Char × List Char :=
  let after := (name.reverse.takeWhile (· != '.')).reverse
  let before := name.take (name.length - after.length - 1)
  if after.isEmpty || after.length = name.length || before.isEmpty then (name, [])
  else (before, '.' :: after)

/-- The part of the name from its last point on. -/
def suffix (p : Path) : String := String.ofList (splitName p.name.toList).2

/-- The part of the name before its last point. -/
def stem (p : Path) : String := String.ofList (splitName p.name.toList).1

end Path

end ChainApi
