import ChainApi.Proofs.FileTree

/-!
# ChainApi.Proofs.Writing

What a write does to a file system.  The way to the file is made first, directory by
directory; where it is barred, the directories made so far stay.  A file that can be
written then holds the content, and nothing else has changed.

* `Grown` — a file system to which only directories were added;
* `IsTree.makeDirectories_cons` — one step on the way, and from it
  `IsTree.makeDirectories_grown` and `IsTree.makeDirectories_eq_ok_iff`, the whole way;
* `WayMade` — the way is there, and it depends on the file alone whether it can be written;
* `IsTree.write_cases` — all that a write can do;
* `IsTree.write_eq_ok_iff`, `IsTree.writesOnly` — when a file is written, and what changes.
-/

namespace ChainApi

/-- A path as it is read from a text: no segment is empty or stands for the same directory. -/
def Path.IsPlain (p : Path) : Prop := ∀ s ∈ p.segments, s ≠ "" ∧ s ≠ "."

theorem Path.isPlain_ofText (text : String) : (Path.ofText text).IsPlain := by
  intro s hs
  simp only [Path.ofText, List.mem_map, List.mem_filter, Bool.and_eq_true, Bool.not_eq_true',
    bne_iff_ne] at hs
  obtain ⟨piece, ⟨-, hempty, hhere⟩, rfl⟩ := hs
  have hback := String.toList_ofList (l := piece)
  constructor <;> intro hs <;> rw [hs] at hback <;> simp_all

namespace FileSystem

/-! ## ways -/

/-- The place that a segment leads to from another one. -/
def descend (place : List String) (s : String) : List String :=
  if s = ".." then place.dropLast else place ++ [s]

/-- The places that segments lead through from a place on. -/
def ways (place : List String) : List String → List (List String)
  | [] => []
  | s :: rest => descend place s :: ways (descend place s) rest

theorem foldl_descend_mem (place segments : List String) :
    segments.foldl descend place ∈ place :: ways place segments := by
  induction segments generalizing place with
  | nil => exact List.mem_cons_self
  | cons s rest ih => exact List.mem_cons_of_mem _ (ih _)

/-- The places on the way to a file, which have to be directories. -/
def parents (fs : FileSystem) (p : Path) : List (List String) :=
  ways (fs.start p) p.parent.segments

/-- Segments lead along directories to where they are said to lead. -/
theorem walk_of_directories {fs : FileSystem} {place segments : List String}
    (hplace : fs.get? place = some .directory)
    (hways : ∀ w ∈ ways place segments, fs.get? w = some .directory)
    (hnames : ∀ s ∈ segments, s ≠ "" ∧ s ≠ "." ∧ isLongName s = false) :
    fs.walk place segments = .ok (segments.foldl descend place) := by
  induction segments generalizing place with
  | nil => rfl
  | cons s rest ih =>
    obtain ⟨hempty, hhere, hshort⟩ := hnames s List.mem_cons_self
    have hstep := ih (hways _ List.mem_cons_self)
      (fun w hw => hways w (List.mem_cons_of_mem _ hw))
      (fun t ht => hnames t (List.mem_cons_of_mem _ ht))
    rw [List.foldl_cons, ← hstep, walk, hplace, descend]
    by_cases hup : s = ".." <;> simp [hup, hhere, hempty, hshort]

/-! ## new directories -/

/-- A file system to which only directories were added, at places where nothing stood. -/
structure Grown (fs : FileSystem) (new : List (List String)) (fs' : FileSystem) : Prop where
  tree : fs'.IsTree
  working : fs'.workingDirectory = fs.workingDirectory
  get? : ∀ place, fs'.get? place = fs.get? place ∨
    fs.get? place = none ∧ fs'.get? place = some .directory ∧ place ∈ new

namespace Grown

variable {fs fs₁ fs₂ : FileSystem} {new more : List (List String)} {place parent : List String}
  {s : String} {e : Entry}

theorem refl (h : fs.IsTree) : Grown fs new fs := ⟨h, rfl, fun _ => .inl rfl⟩

/-- What is there stays there. -/
theorem keep (h : Grown fs new fs₁) (hplace : fs.get? place = some e) :
    fs₁.get? place = some e := by
  rcases h.get? place with heq | ⟨hnone, -⟩
  · rw [heq, hplace]
  · rw [hnone] at hplace
    cases hplace

/-- No files are added. -/
theorem get?_eq_file_iff (h : Grown fs new fs₁) {content : List UInt8} :
    fs₁.get? place = some (.file content) ↔ fs.get? place = some (.file content) := by
  rcases h.get? place with heq | ⟨hnone, hdirectory, -⟩
  · rw [heq]
  · simp [hnone, hdirectory]

theorem mono (h : Grown fs new fs₁) (hnew : new ⊆ more) : Grown fs more fs₁ :=
  ⟨h.tree, h.working, fun place => (h.get? place).imp_right
    fun ⟨hnone, hdirectory, hmem⟩ => ⟨hnone, hdirectory, hnew hmem⟩⟩

theorem trans (h : Grown fs new fs₁) (h₁ : Grown fs₁ new fs₂) : Grown fs new fs₂ := by
  refine ⟨h₁.tree, h₁.working.trans h.working, fun place => ?_⟩
  rcases h.get? place with heq | ⟨hnone, hdirectory, hmem⟩
  · rw [← heq]
    exact h₁.get? place
  · exact .inr ⟨hnone, h₁.keep hdirectory, hmem⟩

/-- A directory is made where nothing stood. -/
theorem put (h : fs.IsTree) (hparent : fs.get? parent = some .directory) (hname : IsName s)
    (hnone : fs.get? (parent ++ [s]) = none) (hnew : parent ++ [s] ∈ new) :
    Grown fs new (fs.put (parent ++ [s]) .directory) := by
  refine ⟨h.put hparent hname (.inl rfl), workingDirectory_put, fun place => ?_⟩
  by_cases heq : place = parent ++ [s]
  · subst heq
    exact .inr ⟨hnone, get?_put_self .., hnew⟩
  · exact .inl (h.get?_put_of_ne hparent heq)

end Grown

section MakeDirectories

variable {fs : FileSystem} {place q : List String} {segments : List String} {s : String}

theorem isLongName_up : isLongName ".." = false := by decide

/-- One step on the way: it is stopped by a name that is too long or by a file, or else
there is a directory, which may be new, and the way goes on from there. -/
theorem IsTree.makeDirectories_cons (h : fs.IsTree) (hplace : fs.get? place = some .directory)
    (hempty : s ≠ "") (hhere : s ≠ ".") (rest : List String) :
    (∃ e, fs.makeDirectories place (s :: rest) = (fs, .error e) ∧
      (isLongName s = true ∨ ∃ content, fs.get? (descend place s) = some (.file content))) ∨
    ∃ fs₁, fs.makeDirectories place (s :: rest) = fs₁.makeDirectories (descend place s) rest ∧
      Grown fs [descend place s] fs₁ ∧ fs₁.get? (descend place s) = some .directory ∧
      isLongName s = false := by
  rw [makeDirectories, descend]
  split
  · next hup => exact .inr ⟨fs, rfl, .refl h, h.directory_dropLast hplace, hup ▸ isLongName_up⟩
  · next hup =>
    by_cases hlong : isLongName s = true
    · exact .inl ⟨.tooLong, if_pos hlong, .inl hlong⟩
    · have hname : IsName s := ⟨hempty, hhere, hup, by simpa using hlong⟩
      simp only [hlong, Bool.false_eq_true, if_false]
      split
      · next hdirectory => exact .inr ⟨fs, rfl, .refl h, hdirectory, trivial⟩
      · next content hfile => exact .inl ⟨_, rfl, .inr ⟨content, hfile⟩⟩
      · next hnone =>
        exact .inr ⟨_, rfl, .put h hplace hname hnone List.mem_cons_self, get?_put_self .., trivial⟩

/-- Making directories adds directories, some of those on the way. -/
theorem IsTree.makeDirectories_grown (h : fs.IsTree) (hplace : fs.get? place = some .directory)
    (hnames : ∀ s ∈ segments, s ≠ "" ∧ s ≠ ".") :
    Grown fs (ways place segments) (fs.makeDirectories place segments).1 := by
  induction segments generalizing fs place with
  | nil => exact .refl h
  | cons s rest ih =>
    obtain ⟨⟨hempty, hhere⟩, hrest⟩ := List.forall_mem_cons.1 hnames
    rcases h.makeDirectories_cons hplace hempty hhere rest with
      ⟨e, hstop, -⟩ | ⟨fs₁, hnext, hgrown, hdirectory, -⟩
    · rw [hstop]
      exact .refl h
    · rw [hnext]
      exact (hgrown.mono (by simp [ways])).trans
        ((ih hgrown.tree hdirectory hrest).mono (List.subset_cons_self ..))

/-- Directories can be made as long as no name is too long and no file is on the way. -/
theorem IsTree.makeDirectories_eq_ok_iff (h : fs.IsTree) (hplace : fs.get? place = some .directory)
    (hnames : ∀ s ∈ segments, s ≠ "" ∧ s ≠ ".") :
    (fs.makeDirectories place segments).2 = .ok q ↔
      q = segments.foldl descend place ∧ (∀ s ∈ segments, isLongName s = false) ∧
        ∀ w ∈ ways place segments, ∀ content, fs.get? w ≠ some (.file content) := by
  induction segments generalizing fs place with
  | nil =>
    simp only [makeDirectories, ways, List.foldl_nil, Except.ok.injEq, eq_comm (a := q)]
    simp
  | cons s rest ih =>
    obtain ⟨⟨hempty, hhere⟩, hrest⟩ := List.forall_mem_cons.1 hnames
    rw [ways, List.foldl_cons, List.forall_mem_cons, List.forall_mem_cons]
    rcases h.makeDirectories_cons hplace hempty hhere rest with
      ⟨e, hstop, hlong | ⟨content, hfile⟩⟩ | ⟨fs₁, hnext, hgrown, hdirectory, hshort⟩
    · simp [hstop, hlong]
    · simp [hstop, hfile]
    · have hopen (content : List UInt8) : fs.get? (descend place s) ≠ some (.file content) := by
        rw [Ne, ← hgrown.get?_eq_file_iff, hdirectory]
        exact nofun
      simp [hnext, ih hgrown.tree hdirectory hrest, hgrown.get?_eq_file_iff, hshort, hopen]

/-- Once directories are made, there is a directory all the way. -/
theorem IsTree.makeDirectories_directories (h : fs.IsTree)
    (hplace : fs.get? place = some .directory) (hnames : ∀ s ∈ segments, s ≠ "" ∧ s ≠ ".")
    (hok : (fs.makeDirectories place segments).2 = .ok q) :
    ∀ w ∈ ways place segments, (fs.makeDirectories place segments).1.get? w = some .directory := by
  induction segments generalizing fs place with
  | nil => exact List.forall_mem_nil _
  | cons s rest ih =>
    obtain ⟨⟨hempty, hhere⟩, hrest⟩ := List.forall_mem_cons.1 hnames
    rcases h.makeDirectories_cons hplace hempty hhere rest with
      ⟨e, hstop, -⟩ | ⟨fs₁, hnext, hgrown, hdirectory, -⟩
    · rw [hstop] at hok
      cases hok
    · rw [hnext] at hok ⊢
      refine List.forall_mem_cons.2 ⟨?_, ih hgrown.tree hdirectory hrest hok⟩
      exact (hgrown.tree.makeDirectories_grown hdirectory hrest).keep hdirectory

end MakeDirectories

/-! ## writing -/

/-- A file can be written: its path can be looked up, nothing but directories or new places
lie on the way, no name is too long, and the file takes the place of no directory, not even
of a new one. -/
structure Writable (fs : FileSystem) (p : Path) : Prop where
  parentText : checkText p.parent.text = .ok ()
  text : checkText p.text = .ok ()
  short : ∀ s ∈ p.segments, isLongName s = false
  way : ∀ w ∈ fs.parents p, ∀ content, fs.get? w ≠ some (.file content)
  free : fs.get? (fs.locate p) ≠ some .directory
  apart : fs.locate p ∉ fs.parents p

/-- The file systems before and after a file was written: the file holds the content, and
all else is as it was but for new directories on the way to the file. -/
structure WritesOnly (fs : FileSystem) (p : Path) (content : List UInt8) (fs' : FileSystem) :
    Prop where
  read : fs'.read p = .ok content
  working : fs'.workingDirectory = fs.workingDirectory
  get? : ∀ place, place ≠ fs.locate p → fs'.get? place = fs.get? place ∨
    fs.get? place = none ∧ fs'.get? place = some .directory ∧ place ∈ fs.parents p

section Write

variable {fs fs' : FileSystem} {p : Path} {content : List UInt8}

theorem IsTree.start (h : fs.IsTree) (p : Path) : fs.get? (fs.start p) = some .directory := by
  unfold FileSystem.start
  split
  · exact h.working
  · exact h.root

/-- The last segment leads on from the directory of a path. -/
theorem locate_of_segments {s : String} (hp : p.segments = p.parent.segments ++ [s]) :
    fs.locate p = descend (fs.locate p.parent) s := by
  have hfold : fs.locate p = p.segments.foldl descend (fs.start p) := rfl
  rw [hfold, hp, List.foldl_append]
  rfl

/-- A path has a last segment unless it names the place that it starts from. -/
theorem segments_cases (p : Path) :
    p.segments = [] ∨ ∃ s, p.segments = p.parent.segments ++ [s] ∧ p.name = s := by
  rcases List.eq_nil_or_concat' p.segments with hnil | ⟨xs, s, hsegments⟩
  · exact .inl hnil
  · exact .inr ⟨s, by simp [Path.parent, hsegments], by simp [Path.name, hsegments]⟩

/-- No segment is too long if those of the directory and the name are not. -/
theorem short_iff : (∀ s ∈ p.segments, isLongName s = false) ↔
    (∀ s ∈ p.parent.segments, isLongName s = false) ∧ isLongName p.name = false := by
  rcases segments_cases p with hnil | ⟨s, hsegments, hname⟩
  · have hempty : isLongName "" = false := by decide
    simp [Path.parent, Path.name, hnil, hempty]
  · simp only [hname, hsegments, List.mem_append, List.mem_singleton, or_imp, forall_and,
      forall_eq]

/-- The way to a file was made: there are directories all the way, some of them new, as no
name on it was too long and no file was in the way. -/
structure WayMade (fs : FileSystem) (p : Path) (fs₁ : FileSystem) : Prop where
  grown : Grown fs (fs.parents p) fs₁
  directories : ∀ w ∈ fs.locate p.parent :: fs.parents p, fs₁.get? w = some .directory
  short : ∀ s ∈ p.parent.segments, isLongName s = false
  way : ∀ w ∈ fs.parents p, ∀ content, fs.get? w ≠ some (.file content)

/-- The way to a file can be made, or else the file cannot be written. -/
theorem IsTree.makeParents_cases (h : fs.IsTree) (hp : p.IsPlain) :
    (∃ fs₁, fs.makeDirectories (fs.start p) p.parent.segments = (fs₁, .ok (fs.locate p.parent)) ∧
      fs.WayMade p fs₁) ∨
    ∃ fs₁ e, fs.makeDirectories (fs.start p) p.parent.segments = (fs₁, .error e) ∧
      Grown fs (fs.parents p) fs₁ ∧ ¬ fs.Writable p := by
  have hstart := h.start p
  have hplain : ∀ s ∈ p.parent.segments, s ≠ "" ∧ s ≠ "." := fun s hs =>
    hp s (List.mem_of_mem_dropLast hs)
  have hgrown := h.makeDirectories_grown hstart hplain
  have hmade := fun q => h.makeDirectories_eq_ok_iff (q := q) hstart hplain
  have hdirectories := fun q => h.makeDirectories_directories (q := q) hstart hplain
  rcases hmake : fs.makeDirectories (fs.start p) p.parent.segments with ⟨fs₁, e | q⟩ <;>
    rw [hmake] at hgrown hmade hdirectories
  · refine .inr ⟨fs₁, e, rfl, hgrown, fun hw => ?_⟩
    exact nomatch (hmade _).2 ⟨rfl, (short_iff.1 hw.short).1, hw.way⟩
  · obtain ⟨rfl, hshort, hway⟩ := (hmade q).1 rfl
    refine .inl ⟨fs₁, rfl, hgrown, List.forall_mem_cons.2 ⟨?_, hdirectories _ rfl⟩, hshort, hway⟩
    have hend : fs.locate p.parent ∈ fs.start p :: fs.parents p := foldl_descend_mem ..
    rcases List.mem_cons.1 hend with heq | hmem
    · exact hgrown.keep (heq ▸ hstart)
    · exact hdirectories _ rfl _ hmem

namespace WayMade

variable {fs₁ : FileSystem}

/-- Once the way is there, it depends on the file alone whether it can be written. -/
theorem writable_iff (h : fs.WayMade p fs₁) (htext : checkText p.parent.text = .ok ()) :
    fs.Writable p ↔ checkText p.text = .ok () ∧ isLongName p.name = false ∧
      fs₁.get? (fs.locate p) ≠ some .directory := by
  constructor
  · refine fun hw => ⟨hw.text, (short_iff.1 hw.short).2, fun hdirectory => ?_⟩
    rcases h.grown.get? (fs.locate p) with heq | ⟨-, -, hmem⟩
    · exact hw.free (heq ▸ hdirectory)
    · exact hw.apart hmem
  · rintro ⟨htext', hname, hfree⟩
    have hshort := short_iff.2 ⟨h.short, hname⟩
    refine ⟨htext, htext', hshort, h.way, fun hdirectory => ?_, fun hmem => ?_⟩
    · exact hfree (h.grown.keep hdirectory)
    · exact hfree (h.directories _ (List.mem_cons_of_mem _ hmem))

/-- A file that can be written has a name of its own in its directory. -/
theorem exists_isName (h : fs.WayMade p fs₁) (hp : p.IsPlain) (hw : fs.Writable p)
    (hfree : fs₁.get? (fs.locate p) ≠ some .directory) :
    ∃ s, p.segments = p.parent.segments ++ [s] ∧ IsName s ∧
      fs.locate p = fs.locate p.parent ++ [s] := by
  have hparent := h.directories _ List.mem_cons_self
  rcases segments_cases p with hnil | ⟨s, hsegments, -⟩
  · have hsame : fs.locate p = fs.locate p.parent := by simp [locate, start, Path.parent, hnil]
    exact absurd hparent (hsame ▸ hfree)
  · have hmem : s ∈ p.segments := by simp [hsegments]
    have hlocate : fs.locate p = descend (fs.locate p.parent) s := locate_of_segments hsegments
    have hup : s ≠ ".." := by
      rintro rfl
      exact hfree (hlocate ▸ h.grown.tree.directory_dropLast hparent)
    refine ⟨s, hsegments, ⟨(hp s hmem).1, (hp s hmem).2, hup, hw.short s hmem⟩, ?_⟩
    rw [hlocate, descend, if_neg hup]

/-- What is left of a write once the way is there. -/
theorem write_eq (htext : checkText p.parent.text = .ok ())
    (hmake : fs.makeDirectories (fs.start p) p.parent.segments =
      (fs₁, .ok (fs.locate p.parent))) (content : List UInt8) :
    fs.write p content =
      match checkText p.text with
      | .error e => (fs₁, .error e)
      | .ok () =>
        if isLongName p.name then (fs₁, .error .tooLong)
        else
          match fs₁.get? (fs.locate p) with
          | some .directory => (fs₁, .error .isDirectory)
          | _ => (fs₁.put (fs.locate p) (.file content), .ok ()) := by
  simp only [write, htext, hmake]
  rcases segments_cases p with hnil | ⟨s, hsegments, -⟩
  · have hsame : fs.locate p = fs.locate p.parent := by simp [locate, start, Path.parent, hnil]
    rw [hnil, hsame]
    rfl
  · rw [locate_of_segments hsegments, List.getLast?_eq_some_iff.2 ⟨_, hsegments⟩]
    rfl

end WayMade

/-- What a write does: a file that can be written is put into its directory once the way to
it is there, and for any other one at most directories on the way are made. -/
theorem IsTree.write_cases (h : fs.IsTree) (hp : p.IsPlain) (content : List UInt8) :
    (fs.Writable p ∧ ∃ fs₁, fs.WayMade p fs₁ ∧ fs₁.get? (fs.locate p) ≠ some .directory ∧
      fs.write p content = (fs₁.put (fs.locate p) (.file content), .ok ())) ∨
    ¬ fs.Writable p ∧ ∃ e, (fs.write p content).2 = .error e ∧
      Grown fs (fs.parents p) (fs.write p content).1 := by
  cases htext : checkText p.parent.text with
  | error e =>
    have hstop : fs.write p content = (fs, .error e) := by simp only [write, htext]
    refine .inr ⟨fun hw => by simp [hw.parentText] at htext, e, ?_⟩
    rw [hstop]
    exact ⟨rfl, .refl h⟩
  | ok =>
    rcases h.makeParents_cases hp with ⟨fs₁, hmake, hmade⟩ | ⟨fs₁, e, hmake, hgrown, hw⟩
    · rw [hmade.writable_iff htext, WayMade.write_eq htext hmake]
      cases htext' : checkText p.text with
      | error e => exact .inr ⟨by simp, e, rfl, hmade.grown⟩
      | ok =>
        cases hname : isLongName p.name with
        | true => exact .inr ⟨by simp, _, rfl, hmade.grown⟩
        | false =>
          by_cases hfree : fs₁.get? (fs.locate p) = some .directory
          · simp only [hfree]
            exact .inr ⟨by simp, _, rfl, hmade.grown⟩
          · refine .inl ⟨⟨rfl, rfl, hfree⟩, fs₁, hmade, hfree, ?_⟩
            simp only [Bool.false_eq_true, if_false]
    · have hstop : fs.write p content = (fs₁, .error e) := by simp only [write, htext, hmake]
      refine .inr ⟨hw, e, ?_⟩
      rw [hstop]
      exact ⟨rfl, hgrown⟩

theorem IsTree.write_eq_ok_iff (h : fs.IsTree) (hp : p.IsPlain) (content : List UInt8) :
    (fs.write p content).2 = .ok () ↔ fs.Writable p := by
  rcases h.write_cases hp content with ⟨hw, fs₁, -, -, hwrite⟩ | ⟨hw, e, he, -⟩
  · simp [hwrite, hw]
  · simp [he, hw]

/-- A file is read where a walk along its path ends. -/
theorem read_of_walk {place : List String} (htext : checkText p.text = .ok ())
    (hwalk : fs.walk (fs.start p) p.segments = .ok place)
    (hplace : fs.get? place = some (.file content)) : fs.read p = .ok content := by
  have hfind : fs.find p = .ok (.file content) := by
    simp only [find, resolve, htext, bind, Except.bind, hwalk, hplace]
  rw [read, hfind]
  rfl

/-- A file that is written holds the content, and nothing else changes but for the
directories on the way to it. -/
theorem IsTree.writesOnly (h : fs.IsTree) (hp : p.IsPlain)
    (hok : (fs.write p content).2 = .ok ()) :
    (fs.write p content).1.IsTree ∧ fs.WritesOnly p content (fs.write p content).1 := by
  rcases h.write_cases hp content with ⟨hw, fs₁, hmade, hfree, hwrite⟩ | ⟨-, e, he, -⟩
  · obtain ⟨s, hsegments, hs, hlocate⟩ := hmade.exists_isName hp hw hfree
    have htree := hmade.grown.tree
    have hparent := hmade.directories _ List.mem_cons_self
    rw [hlocate] at hfree hwrite
    have hput {w : List String} (hw : fs₁.get? w = some .directory) :
        (fs₁.put (fs.locate p.parent ++ [s]) (.file content)).get? w = some .directory := by
      rw [htree.get?_put_of_ne hparent fun heq => hfree (heq ▸ hw), hw]
    have hworking : (fs₁.put (fs.locate p.parent ++ [s]) (.file content)).workingDirectory =
        fs.workingDirectory := workingDirectory_put.trans hmade.grown.working
    have hstart : (fs₁.put (fs.locate p.parent ++ [s]) (.file content)).start p = fs.start p := by
      simp only [FileSystem.start, hworking]
    have hwalk : (fs₁.put (fs.locate p.parent ++ [s]) (.file content)).walk (fs.start p)
        p.segments = .ok (fs.locate p.parent ++ [s]) := by
      have hnames : ∀ t ∈ p.parent.segments, t ≠ "" ∧ t ≠ "." ∧ isLongName t = false := by
        intro t ht
        have hmem := List.mem_of_mem_dropLast ht
        exact ⟨(hp t hmem).1, (hp t hmem).2, hmade.short t ht⟩
      have hway := walk_of_directories (hput (hmade.grown.keep (h.start p)))
        (fun w hw => hput (hmade.directories w (List.mem_cons_of_mem _ hw))) hnames
      rw [hsegments, walk_append, hway]
      exact walk_singleton (hput hparent) hs
    rw [hwrite]
    refine ⟨htree.put hparent hs (.inr hfree), ?_, hworking, fun place hne => ?_⟩
    · exact read_of_walk hw.text (hstart ▸ hwalk) (get?_put_self ..)
    · rw [htree.get?_put_of_ne hparent (hlocate ▸ hne)]
      exact hmade.grown.get? place
  · rw [he] at hok
    cases hok

end Write

end FileSystem

end ChainApi
