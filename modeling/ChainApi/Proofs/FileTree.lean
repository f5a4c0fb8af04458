import Mathlib.Data.List.Infix
import ChainApi.FileSystem
import ChainApi.Proofs.Merge

/-!
# ChainApi.Proofs.FileTree

File systems as trees.  What a file system holds is told by `get?` alone, a function from
places: whatever stands at a place stands in a directory.  The order in which the entries
are kept does not matter, and an entry that is put into a directory changes the function
at one place.

* `FileSystem.IsTree` — what makes a list of entries a file system;
* `get?_of_perm` — entries in another order;
* `IsTree.get?_put_of_ne`, `IsTree.put` — one entry put into a directory;
* `walk_append`, `walk_congr` — walks along segments.
-/

namespace ChainApi

namespace FileSystem

/-- A text that can be the name of an entry. -/
structure IsName (s : String) : Prop where
  nonempty : s ≠ ""
  notHere : s ≠ "."
  notUp : s ≠ ".."
  short : isLongName s = false

/-- The places that have entries of their own. -/
def places (fs : FileSystem) : List (List String) := fs.entries.map Prod.fst

/-- A tree of files and directories: no place has two entries, what stands at a place
has a name and stands in a directory, and paths start in a directory. -/
structure IsTree (fs : FileSystem) : Prop where
  distinct : fs.places.Nodup
  root : fs.get? [] = some .directory
  inside : ∀ {place s e}, fs.get? (place ++ [s]) = some e → fs.get? place = some .directory
  named : ∀ {place s e}, fs.get? (place ++ [s]) = some e → IsName s
  working : fs.get? fs.workingDirectory = some .directory

section Lookup

variable {fs : FileSystem} {place other : List String} {e : Entry}

/-- What stands at a place without an entry: a directory above some entry, or nothing. -/
theorem get?_of_lookup_eq_none (h : fs.entries.lookup place = none) :
    fs.get? place =
      if place = [] ∨ ∃ k ∈ fs.places, place <+: k then some .directory else none := by
  have hany : (fs.entries.any fun d => place.isPrefixOf d.1) = true ↔
      ∃ k ∈ fs.places, place <+: k := by
    simp [places]
  simp only [get?, h, Bool.or_eq_true, List.isEmpty_iff, hany]

theorem get?_of_lookup_eq_some (h : fs.entries.lookup place = some e) : fs.get? place = some e := by
  simp [get?, h]

/-- Something stands at a place below the root exactly if there is an entry at it or below. -/
theorem isSome_get?_iff (h : place ≠ []) :
    (fs.get? place).isSome ↔ ∃ k ∈ fs.places, place <+: k := by
  cases hlookup : fs.entries.lookup place with
  | none => simp [get?_of_lookup_eq_none hlookup, h]
  | some e =>
    obtain ⟨before, after, hentries, -⟩ := List.lookup_eq_some_iff.1 hlookup
    have hmem : place ∈ fs.places := by simp [places, hentries]
    simpa [get?_of_lookup_eq_some hlookup] using ⟨place, hmem, place.prefix_refl⟩

theorem places_put (fs : FileSystem) (place : List String) (e : Entry) :
    (fs.put place e).places = if place ∈ fs.places then fs.places else fs.places ++ [place] := by
  have hany : (fs.entries.any fun d => d.1 == place) = true ↔ place ∈ fs.places := by
    simp [places]
  simp only [put, hany]
  split
  · rw [places, places, List.map_map]
    refine List.map_congr_left fun d _ => ?_
    by_cases hd : d.1 = place <;> simp [hd]
  · simp [places]

theorem mem_places_put : other ∈ (fs.put place e).places ↔ other ∈ fs.places ∨ other = place := by
  rw [places_put]
  split
  · next h => exact ⟨.inl, Or.rec id fun heq => heq ▸ h⟩
  · simp

theorem nodup_places_put (h : fs.places.Nodup) : (fs.put place e).places.Nodup := by
  rw [places_put]
  split
  · exact h
  · next hplace => simpa [List.nodup_append] using ⟨h, fun k hk heq => hplace (heq ▸ hk)⟩

/-- The order of the entries does not matter to what stands at a place. -/
theorem lookup_of_perm {es es' : List (List String × Entry)} (hperm : es.Perm es')
    (h : (es.map Prod.fst).Nodup) : es.lookup place = es'.lookup place := by
  induction hperm with
  | nil => rfl
  | cons d _ ih =>
    obtain ⟨k, e⟩ := d
    simp only [List.lookup_cons, ih (List.nodup_cons.1 h).2]
  | swap d d' es =>
    obtain ⟨k, e⟩ := d
    obtain ⟨k', e'⟩ := d'
    have hne : k' ≠ k := by
      rintro rfl
      simp at h
    by_cases hk : place = k
    · subst hk
      have hne : (place == k') = false := by simpa using hne.symm
      simp [List.lookup_cons, hne]
    · have hk : (place == k) = false := by simpa using hk
      simp only [List.lookup_cons, hk]
  | trans hperm _ ih ih' => exact (ih h).trans (ih' ((hperm.map Prod.fst).nodup_iff.1 h))

theorem get?_of_perm {fs' : FileSystem} (hperm : fs.entries.Perm fs'.entries)
    (h : fs.places.Nodup) : fs.get? place = fs'.get? place := by
  simp only [get?, lookup_of_perm hperm h, hperm.any_eq]

@[simp] theorem workingDirectory_put : (fs.put place e).workingDirectory = fs.workingDirectory := by
  unfold put
  split <;> rfl

end Lookup

namespace IsTree

variable {fs : FileSystem} {parent place other : List String} {s : String} {e d : Entry}

/-- Entries with names make a tree if no place has two of them and no file stands above
another entry. -/
theorem of_entries (distinct : fs.places.Nodup) (named : ∀ k ∈ fs.places, ∀ s ∈ k, IsName s)
    (files : ∀ d ∈ fs.entries, d.2 ≠ .directory →
      d.1 ≠ [] ∧ ∀ k ∈ fs.places, d.1 <+: k → k = d.1)
    (working : fs.get? fs.workingDirectory = some .directory) : fs.IsTree := by
  have habove {place : List String} {t : String} {d : Entry}
      (hd : fs.get? (place ++ [t]) = some d) : ∃ k ∈ fs.places, place ++ [t] <+: k :=
    (isSome_get?_iff (by simp)).1 (by simp [hd])
  -- where an entry stands there is a directory, unless it is a file
  have hdirectory {place : List String} (hfile : ∀ d, (place, d) ∈ fs.entries → d = .directory)
      (habove : place = [] ∨ ∃ k ∈ fs.places, place <+: k) :
      fs.get? place = some .directory := by
    cases hlookup : fs.entries.lookup place with
    | none => rw [get?_of_lookup_eq_none hlookup, if_pos habove]
    | some d =>
      obtain ⟨before, after, hentries, -⟩ := List.lookup_eq_some_iff.1 hlookup
      rw [get?_of_lookup_eq_some hlookup, hfile d (by simp [hentries])]
  refine ⟨distinct, hdirectory (fun d hd => ?_) (.inl rfl), fun {place t d} hd => ?_,
    fun {place t d} hd => ?_, working⟩
  · by_contra hfile
    exact (files _ hd hfile).1 rfl
  · obtain ⟨k, hk, hfront⟩ := habove hd
    have hup : place <+: k := (List.prefix_append place [t]).trans hfront
    refine hdirectory (fun d' hd' => ?_) (.inr ⟨k, hk, hup⟩)
    by_contra hfile
    have heq := (files _ hd' hfile).2 k hk hup
    have hlength := hfront.length_le
    simp only [heq, List.length_append, List.length_singleton] at hlength
    omega
  · obtain ⟨k, hk, hfront⟩ := habove hd
    exact named k hk t (hfront.subset (by simp))

/-- All places above one at which something stands are directories. -/
theorem directory_of_prefix (h : fs.IsTree) (hplace : fs.get? place = some e)
    (hother : other <+: place) (hne : other ≠ place) : fs.get? other = some .directory := by
  induction place using List.reverseRecOn generalizing e with
  | nil => exact absurd (List.prefix_nil.1 hother) hne
  | append_singleton place s ih =>
    have hparent := h.inside hplace
    rcases List.prefix_concat_iff.1 hother with heq | hfront
    · exact absurd heq hne
    · by_cases heq : other = place
      · rw [heq, hparent]
      · exact ih hparent hfront heq

/-- A directory that is left upwards is in a directory, or it is the root. -/
theorem directory_dropLast (h : fs.IsTree) (hplace : fs.get? place = some .directory) :
    fs.get? place.dropLast = some .directory := by
  by_cases heq : place.dropLast = place
  · rw [heq, hplace]
  · exact h.directory_of_prefix hplace place.dropLast_prefix heq

/-- An entry that is put into a directory changes nothing elsewhere. -/
theorem get?_put_of_ne (h : fs.IsTree) (hparent : fs.get? parent = some .directory)
    (hne : other ≠ parent ++ [s]) :
    (fs.put (parent ++ [s]) e).get? other = fs.get? other := by
  have hlookup := lookup_put_of_ne fs e hne
  cases hold : fs.entries.lookup other with
  | some d =>
    rw [hold] at hlookup
    rw [get?_of_lookup_eq_some hlookup, get?_of_lookup_eq_some hold]
  | none =>
    rw [hold] at hlookup
    by_cases hfront : other <+: parent ++ [s]
    · have hup : other <+: parent := (List.prefix_concat_iff.1 hfront).resolve_left hne
      have hdirectory : fs.get? other = some .directory := by
        by_cases heq : other = parent
        · rw [heq, hparent]
        · exact h.directory_of_prefix hparent hup heq
      rw [hdirectory, get?_of_lookup_eq_none hlookup,
        if_pos (.inr ⟨_, mem_places_put.2 (.inr rfl), hfront⟩)]
    · rw [get?_of_lookup_eq_none hlookup, get?_of_lookup_eq_none hold]
      simp [mem_places_put, or_and_right, exists_or, hfront]

/-- A tree stays one if an entry with a name is put into a directory, unless it is a file
that takes the place of a directory. -/
theorem put (h : fs.IsTree) (hparent : fs.get? parent = some .directory) (hname : IsName s)
    (hkind : e = .directory ∨ fs.get? (parent ++ [s]) ≠ some .directory) :
    (fs.put (parent ++ [s]) e).IsTree := by
  have hself := get?_put_self fs (parent ++ [s]) e
  -- whatever was a directory still is one
  have hkeep {place : List String} (hplace : fs.get? place = some .directory) :
      (fs.put (parent ++ [s]) e).get? place = some .directory := by
    by_cases heq : place = parent ++ [s]
    · subst heq
      rw [hself, hkind.resolve_right (not_not_intro hplace)]
    · rw [h.get?_put_of_ne hparent heq, hplace]
  refine ⟨nodup_places_put h.distinct, hkeep h.root, fun {place t d} hd => ?_,
    fun {place t d} hd => ?_, ?_⟩
  · by_cases heq : place ++ [t] = parent ++ [s]
    · obtain ⟨rfl, -⟩ := List.append_singleton_inj.1 heq
      exact hkeep hparent
    · rw [h.get?_put_of_ne hparent heq] at hd
      exact hkeep (h.inside hd)
  · by_cases heq : place ++ [t] = parent ++ [s]
    · obtain ⟨-, rfl⟩ := List.append_singleton_inj.1 heq
      exact hname
    · rw [h.get?_put_of_ne hparent heq] at hd
      exact h.named hd
  · rw [workingDirectory_put]
    exact hkeep h.working

end IsTree

/-! ## walks -/

section Walk

variable {fs fs' : FileSystem} {place : List String} {s : String} {p : Path}

/-- A walk along two runs of segments is one along the first and then one along the second. -/
theorem walk_append (fs : FileSystem) (place xs ys : List String) :
    fs.walk place (xs ++ ys) = (fs.walk place xs).bind fun q => fs.walk q ys := by
  induction xs generalizing place with
  | nil => rfl
  | cons x xs ih =>
    rw [List.cons_append, walk, walk]
    split
    · split_ifs
      · exact ih _
      · exact ih _
      · rfl
      · exact ih _
    · rfl
    · rfl

theorem walk_singleton (hplace : fs.get? place = some .directory) (hname : IsName s) :
    fs.walk place [s] = .ok (place ++ [s]) := by
  have hhere : (decide (s = ".") || decide (s = "")) = false := by
    simp [hname.notHere, hname.nonempty]
  rw [walk, hplace]
  simp only [if_neg hname.notUp, hhere, hname.short, Bool.false_eq_true, if_false]
  rfl

/-- What a walk comes to is told by what stands at each place. -/
theorem walk_congr (h : ∀ place, fs.get? place = fs'.get? place) (place segments : List String) :
    fs.walk place segments = fs'.walk place segments := by
  induction segments generalizing place with
  | nil => rfl
  | cons s rest ih => simp only [walk, h, ih]

end Walk

/-! ## the entries of a directory -/

/-- A path leads to the directory at a place, and the paths of its entries are no longer
than paths can be. -/
structure Opens (fs : FileSystem) (directory : Path) (place : List String) : Prop where
  resolved : fs.resolve directory = .ok place
  isDirectory : fs.get? place = some .directory
  short : ∀ name, (fs.get? (place ++ [name])).isSome →
    checkText (directory.child name).text = .ok ()

section Entries

variable {fs fs' : FileSystem} {directory : Path} {place : List String} {name : String}

/-- The names that are listed are those of what stands in the directory. -/
theorem exists_list (h : fs.resolve directory = .ok place)
    (hopen : fs.get? place = some .directory) :
    ∃ names, fs.list directory = .ok names ∧ names.Nodup ∧
      ∀ name, name ∈ names ↔ (fs.get? (place ++ [name])).isSome := by
  refine ⟨(fs.entries.filterMap fun d =>
      if place.isPrefixOf d.1 then (d.1.drop place.length).head? else none).eraseDups,
    by simp only [list, h, bind, Except.bind, hopen], nodup_eraseDups _, fun name => ?_⟩
  have hkeys : (∃ k ∈ fs.places, place ++ [name] <+: k) ↔
      ∃ d ∈ fs.entries, place ++ [name] <+: d.1 := by
    simp [places]
  rw [isSome_get?_iff (by simp), hkeys, List.mem_eraseDups, List.mem_filterMap]
  refine exists_congr fun d => and_congr_right fun _ => ?_
  simp only [Option.ite_none_right_eq_some, List.isPrefixOf_iff_prefix]
  constructor
  · rintro ⟨⟨rest, heq⟩, hhead⟩
    rw [← heq, List.drop_left] at hhead
    cases rest with
    | nil => cases hhead
    | cons s rest =>
      cases hhead
      exact ⟨rest, by simp [← heq]⟩
  · rintro ⟨rest, heq⟩
    simp [← heq]

/-- What the path of an entry leads to is what stands in the directory. -/
theorem Opens.find_child (h : fs.Opens directory place) (hname : IsName name)
    {e : Entry} (hentry : fs.get? (place ++ [name]) = some e) :
    fs.find (directory.child name) = .ok e := by
  have hwalk : fs.walk (fs.start directory) directory.segments = .ok place := by
    have hresolved := h.resolved
    rw [resolve] at hresolved
    cases hcheck : checkText directory.text with
    | error e =>
      rw [hcheck] at hresolved
      cases hresolved
    | ok _ =>
      rw [hcheck] at hresolved
      exact hresolved
  have hchild : fs.walk (fs.start (directory.child name)) (directory.child name).segments =
      .ok (place ++ [name]) := by
    show fs.walk (fs.start directory) (directory.segments ++ [name]) = _
    rw [walk_append, hwalk]
    exact walk_singleton h.isDirectory hname
  simp only [find, resolve, h.short name (by simp [hentry]), bind, Except.bind, hchild, hentry]

end Entries

/-! ## entries in another order -/

/-- The same files and directories, whatever the order of the entries. -/
structure Reordered (fs fs' : FileSystem) : Prop where
  distinct : fs.places.Nodup
  perm : fs.entries.Perm fs'.entries
  working : fs.workingDirectory = fs'.workingDirectory

namespace Reordered

variable {fs fs' : FileSystem}

theorem resolve (h : Reordered fs fs') (p : Path) : fs.resolve p = fs'.resolve p := by
  have hstart : fs.start p = fs'.start p := by simp only [start, h.working]
  simp only [FileSystem.resolve, hstart, walk_congr fun _ => get?_of_perm h.perm h.distinct]

theorem find (h : Reordered fs fs') (p : Path) : fs.find p = fs'.find p := by
  simp only [FileSystem.find, h.resolve, get?_of_perm h.perm h.distinct]

theorem read (h : Reordered fs fs') (p : Path) : fs.read p = fs'.read p := by
  simp only [FileSystem.read, h.find]

theorem isFile (h : Reordered fs fs') (p : Path) : fs.isFile p = fs'.isFile p := by
  simp only [FileSystem.isFile, h.find]

/-- A directory lists the same names, in some order. -/
theorem list (h : Reordered fs fs') (directory : Path) :
    fs.list directory = fs'.list directory ∨
      ∃ names names', fs.list directory = .ok names ∧ fs'.list directory = .ok names' ∧
        names.Perm names' := by
  have hget (place : List String) : fs.get? place = fs'.get? place :=
    get?_of_perm h.perm h.distinct
  cases hresolve : fs.resolve directory with
  | error e =>
    left
    simp only [FileSystem.list, ← h.resolve, hresolve, bind, Except.bind]
  | ok place =>
    have hresolve' := (h.resolve directory).symm.trans hresolve
    by_cases hdirectory : fs.get? place = some .directory
    · right
      obtain ⟨names, hlist, hnodup, hmem⟩ := exists_list hresolve hdirectory
      obtain ⟨names', hlist', hnodup', hmem'⟩ := exists_list hresolve' (hget place ▸ hdirectory)
      refine ⟨names, names', hlist, hlist', (List.perm_ext_iff_of_nodup hnodup hnodup').2 ?_⟩
      intro name
      rw [hmem, hmem', hget]
    · left
      simp only [FileSystem.list, hresolve, hresolve', bind, Except.bind, ← hget]
      split
      · next heq => exact absurd heq hdirectory
      · rfl
      · rfl

end Reordered

end FileSystem

end ChainApi
