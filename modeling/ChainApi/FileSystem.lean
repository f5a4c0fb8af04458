import ChainApi.Path
import ChainApi.Text.Encoding

/-!
# ChainApi.FileSystem

The files that a run sees, as a value: what it reads and writes is then a
function of this value, and that it leaves everything else alone can be stated.

* `FileSystem.read`, `FileSystem.list` — reading;
* `FileSystem.write` — a file written, with the directories that lead to it;
* `get?_put_self`, `lookup_put_of_ne` — an entry that is put is there, and the
  others stay.
-/

namespace ChainApi

/-- What stands at a path. -/
inductive Entry where
  | file (content : List UInt8)
  | directory
  deriving DecidableEq, Repr

/-- Why a file cannot be read or written. -/
inductive FileError where
  | notFound
  | isDirectory
  | notDirectory
  | exists
  /-- A path or one of its segments is longer than any that there can be. -/
  | tooLong
  /-- A path holds the character zero. -/
  | zero
  deriving DecidableEq, Repr

/-- Files and directories by where they stand below the root.  The directories that
lead to an entry need no entry of their own. -/
structure FileSystem where
  entries : List (List String × Entry) := []
  /-- Where paths start that do not start at the root. -/
  workingDirectory : List String := []
  deriving DecidableEq, Repr, Inhabited

namespace FileSystem

/-- What stands at a place. -/
def get? (fs : FileSystem) (place : List String) : Option Entry :=
  match fs.entries.lookup place with
  | some e => some e
  | none =>
    if place.isEmpty || fs.entries.any fun e => place.isPrefixOf e.1 then some .directory
    else none

/-- The longest name of a file, in bytes. -/
def maxName : Nat := 255

/-- The longest path, in bytes. -/
def maxPath : Nat := 4095

/-- Is a segment of a path too long for a name? -/
def isLongName (segment : String) : Bool := maxName < segment.utf8ByteSize

/-- Can a path with this text be looked up at all? -/
def checkText (text : String) : Except FileError Unit :=
  if text.contains '\x00' then .error .zero
  else if maxPath < text.utf8ByteSize then .error .tooLong
  else .ok ()

/-- Follow the segments of a path from a place on.  A segment that leads upwards
takes back the one before, and one that is empty or a point leads nowhere. -/
def walk (fs : FileSystem) (place : List String) : List String → Except FileError (List String)
  | [] => .ok place
  | s :: rest =>
    match fs.get? place with
    | some .directory =>
      if s = ".." then walk fs place.dropLast rest
      else if s = "." || s = "" then walk fs place rest
      else if isLongName s then .error .tooLong
      else walk fs (place ++ [s]) rest
    | some (.file _) => .error .notDirectory
    | none => .error .notFound

/-- Where a path starts. -/
def start (fs : FileSystem) (p : Path) : List String :=
  if p.root = "" then fs.workingDirectory else []

/-- The place that a path leads to. -/
def resolve (fs : FileSystem) (p : Path) : Except FileError (List String) := do
  checkText p.text
  fs.walk (fs.start p) p.segments

/-- The place that a path names, whatever stands on the way. -/
def locate (fs : FileSystem) (p : Path) : List String :=
  p.segments.foldl (fun place s => if s = ".." then place.dropLast else place ++ [s]) (fs.start p)

/-- What a path leads to. -/
def find (fs : FileSystem) (p : Path) : Except FileError Entry := do
  let place ← fs.resolve p
  match fs.get? place with
  | some e => .ok e
  | none => .error .notFound

/-- What a path leads to as it is written: with a slash at its end it leads to a
directory only, and an empty one leads nowhere. -/
def findWritten (fs : FileSystem) (text : String) : Except FileError Entry := do
  if text = "" then throw .notFound
  checkText text
  let place ← fs.walk (fs.start (Path.ofText text)) ((text.toList.splitOn '/').map String.ofList)
  match fs.get? place with
  | some e => .ok e
  | none => .error .notFound

/-- The content of a file. -/
def read (fs : FileSystem) (p : Path) : Except FileError (List UInt8) := do
  match ← fs.find p with
  | .file content => .ok content
  | .directory => .error .isDirectory

/-- The names of the entries of a directory, in no particular order. -/
def list (fs : FileSystem) (p : Path) : Except FileError (List String) := do
  let place ← fs.resolve p
  match fs.get? place with
  | some .directory =>
    .ok ((fs.entries.filterMap fun e =>
      if place.isPrefixOf e.1 then (e.1.drop place.length).head? else none).eraseDups)
  | some (.file _) => .error .notDirectory
  | none => .error .notFound

/-- Does a path lead to a file? -/
def isFile (fs : FileSystem) (p : Path) : Bool :=
  match fs.find p with
  | .ok (.file _) => true
  | _ => false

/-- Put an entry at a place, instead of what stands there. -/
def put (fs : FileSystem) (place : List String) (e : Entry) : FileSystem :=
  if fs.entries.any fun d => d.1 == place then
    { fs with entries := fs.entries.map fun d => if d.1 = place then (place, e) else d }
  else { fs with entries := fs.entries ++ [(place, e)] }

/-- Make the directories that lead from a place along some segments.  Those made
before a failure stay. -/
def makeDirectories (fs : FileSystem) (place : List String) :
    List String → FileSystem × Except FileError (List String)
  | [] => (fs, .ok place)
  | s :: rest =>
    if s = ".." then makeDirectories fs place.dropLast rest
    else
      let next := place ++ [s]
      if isLongName s then (fs, .error .tooLong)
      else
        match fs.get? next with
        | some .directory => makeDirectories fs next rest
        | some (.file _) => (fs, .error (if rest.isEmpty then .exists else .notDirectory))
        | none => makeDirectories (fs.put next .directory) next rest

/-- Write a file, after making the directories that lead to it. -/
def write (fs : FileSystem) (p : Path) (content : List UInt8) :
    FileSystem × Except FileError Unit :=
  match checkText p.parent.text with
  | .error e => (fs, .error e)
  | .ok () =>
    match fs.makeDirectories (fs.start p) p.parent.segments with
    | (fs, .error e) => (fs, .error e)
    | (fs, .ok place) =>
      match checkText p.text with
      | .error e => (fs, .error e)
      | .ok () =>
        let target := match p.segments.getLast? with
          | none => place
          | some s => if s = ".." then place.dropLast else place ++ [s]
        if isLongName p.name then (fs, .error .tooLong)
        else
          match fs.get? target with
          | some .directory => (fs, .error .isDirectory)
          | _ => (fs.put target (.file content), .ok ())

theorem lookup_map_replace (entries : List (List String × Entry)) (place : List String)
    (e : Entry) :
    (entries.map fun d => if d.1 = place then (place, e) else d).lookup place =
      if entries.any fun d => d.1 == place then some e else none := by
  induction entries with
  | nil => rfl
  | cons d ds ih =>
    obtain ⟨k, v⟩ := d
    by_cases h : k = place
    · simp [h]
    · have hk : (place == k) = false := by simpa using fun hp => h hp.symm
      have hk' : (k == place) = false := by simpa using h
      simp only [List.map_cons, h, if_false, List.lookup_cons, hk, ih, List.any_cons, hk',
        Bool.false_or]

/-- An entry that is put is there. -/
theorem get?_put_self (fs : FileSystem) (place : List String) (e : Entry) :
    (fs.put place e).get? place = some e := by
  unfold put
  split
  · next h => simp [get?, lookup_map_replace, h]
  · next h =>
    have hnone : fs.entries.lookup place = none := by
      rw [List.lookup_eq_none_iff]
      simp only [Bool.not_eq_true, List.any_eq_false, beq_iff_eq] at h
      intro d hd
      simpa using fun hp => h d hd hp.symm
    simp [get?, List.lookup_append, hnone]

/-- What stands elsewhere stays when an entry is put. -/
theorem lookup_put_of_ne (fs : FileSystem) {place other : List String} (e : Entry)
    (h : other ≠ place) :
    (fs.put place e).entries.lookup other = fs.entries.lookup other := by
  have hne : (other == place) = false := by simpa using h
  have key : ∀ entries : List (List String × Entry),
      (entries.map fun d => if d.1 = place then (place, e) else d).lookup other =
        entries.lookup other := by
    intro entries
    induction entries with
    | nil => rfl
    | cons d ds ih =>
      obtain ⟨k, v⟩ := d
      by_cases hk : k = place
      · subst hk
        simp only [List.map_cons, if_true, List.lookup_cons, hne, ih]
      · simp only [List.map_cons, hk, if_false, List.lookup_cons, ih]
  unfold put
  split
  · exact key _
  · simp [List.lookup_append, List.lookup_cons, hne]

end FileSystem

end ChainApi
