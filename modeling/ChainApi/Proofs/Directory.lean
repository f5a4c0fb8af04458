import Mathlib.Data.List.Nodup
import ChainApi.Document.Load
import ChainApi.Lists
import ChainApi.Proofs.Failures
import ChainApi.Proofs.FileTree

/-!
# ChainApi.Proofs.Directory

What the files of a directory come to.  The files that hold documents are taken in the order
of their names, however the directory lists them, and the first one that cannot be loaded
decides the failure.  Chains are named after the stems of the files, which may agree where
the names differ and need not stand in their order.

* `Document.exists_files` — the files that are considered, in order;
* `Document.loadDirectory_of_reordered` — the order in which the directory lists them does
  not matter;
* `Document.loadFiles_eq_ok_iff`, `Document.loadFiles_failsBy` — what the files come to;
* `Catalogue.build_eq_error_iff_repeated` — the only failure of a build whose documents can
  be extracted;
* `Document.loadDirectory_ordered` — all of it for a directory.
-/

namespace ChainApi

open FileSystem

namespace Document

variable {fs fs' : FileSystem} {directory : Path} {place : List String}

/-! ## names in order -/

/-- Sorted names ascend. -/
theorem pairwise_sortNames (names : List String) : (sortNames names).Pairwise Text.AtMost := by
  have hsorted : (sortNames names).Pairwise fun a b => decide (Text.AtMost a b) = true :=
    List.pairwise_mergeSort
      (fun a b c hab hbc => by
        simpa using Text.AtMost.trans (by simpa using hab) (by simpa using hbc))
      (fun a b => by simpa using Text.AtMost.total a b) names
  simpa using hsorted

theorem sortNames_perm (names : List String) : (sortNames names).Perm names :=
  List.mergeSort_perm _ _

/-- Names are sorted in one way only. -/
theorem sortNames_eq_of_perm {names names' : List String} (h : names.Perm names') :
    sortNames names = sortNames names' := by
  refine List.Perm.eq_of_pairwise (fun a b _ _ => Text.AtMost.antisymm)
    (pairwise_sortNames names) (pairwise_sortNames names') ?_
  exact (sortNames_perm _).trans (h.trans (sortNames_perm _).symm)

/-- Sorted names ascend strictly if none is repeated. -/
theorem pairwise_sortNames_ne {names : List String} (h : names.Nodup) :
    (sortNames names).Pairwise fun a b => Text.AtMost a b ∧ a ≠ b :=
  (pairwise_sortNames names).and ((sortNames_perm names).nodup_iff.2 h)

/-! ## the files that are considered -/

/-- The names of the files of a directory that are considered, in ascending order. -/
structure Considers (fs : FileSystem) (directory : Path) (place names : List String) : Prop where
  ascending : names.Pairwise fun a b => Text.AtMost a b ∧ a ≠ b
  mem_iff : ∀ name, name ∈ names ↔
    (∃ content, fs.get? (place ++ [name]) = some (.file content)) ∧
      isDocumentPath (directory.child name)

theorem Considers.nodup {names : List String} (h : Considers fs directory place names) :
    names.Nodup := h.ascending.imp And.right

/-- Only one list of names can be considered. -/
theorem Considers.unique {names names' : List String}
    (h : Considers fs directory place names) (h' : Considers fs directory place names') :
    names = names' :=
  List.Perm.eq_of_pairwise (fun a b _ _ hab hba => hab.1.antisymm hba.1) h.ascending h'.ascending
    ((List.perm_ext_iff_of_nodup h.nodup h'.nodup).2 fun name => by rw [h.mem_iff, h'.mem_iff])

/-- The files of a directory that are considered: those whose names tell documents, in the
order of their names. -/
theorem exists_files (hfs : fs.IsTree) (hopens : fs.Opens directory place) :
    ∃ names, files fs directory = .ok (names.map directory.child) ∧
      Considers fs directory place names := by
  obtain ⟨listed, hlist, hnodup, hmem⟩ := exists_list hopens.resolved hopens.isDirectory
  have hcheck : ((sortNames listed).map directory.child).forM
      (fun p => checkText p.text) = .ok () := by
    refine forM_eq_ok fun p hp => ?_
    obtain ⟨name, hname, rfl⟩ := List.mem_map.1 hp
    exact hopens.short name ((hmem name).1 ((sortNames_perm listed).mem_iff.1 hname))
  refine ⟨_, by
      simp only [files, hlist, bind, Except.bind, hcheck, List.filter_map]
      rfl,
    (pairwise_sortNames_ne hnodup).sublist List.filter_sublist, fun name => ?_⟩
  rw [List.mem_filter, (sortNames_perm listed).mem_iff, hmem, Function.comp_apply, Bool.and_eq_true]
  constructor
  · rintro ⟨hsome, hfile, hdocument⟩
    obtain ⟨e, he⟩ := Option.isSome_iff_exists.1 hsome
    rw [isFile, hopens.find_child (hfs.named he) he] at hfile
    cases e with
    | file content => exact ⟨⟨content, he⟩, hdocument⟩
    | directory => cases hfile
  · rintro ⟨⟨content, he⟩, hdocument⟩
    refine ⟨by simp [he], ?_, hdocument⟩
    rw [isFile, hopens.find_child (hfs.named he) he]

/-! ## entries in another order -/

section Reordered

theorem files_of_reordered (h : Reordered fs fs') (directory : Path) :
    files fs directory = files fs' directory := by
  have hfile : fs.isFile = fs'.isFile := funext h.isFile
  rcases h.list directory with heq | ⟨names, names', hlist, hlist', hperm⟩
  · simp only [files, heq, hfile]
  · simp only [files, hlist, hlist', bind, Except.bind, sortNames_eq_of_perm hperm, hfile]

theorem loadFiles_of_reordered (h : Reordered fs fs') (ps : List Path) :
    loadFiles fs ps = loadFiles fs' ps := by
  induction ps with
  | nil => rfl
  | cons p ps ih => simp only [loadFiles, load, h.read, ih]

/-- What a directory comes to does not depend on the order of its entries. -/
theorem loadDirectory_of_reordered (h : Reordered fs fs') (directory : Path) :
    loadDirectory fs directory = loadDirectory fs' directory := by
  have hfiles : loadFiles fs = loadFiles fs' := funext (loadFiles_of_reordered h)
  simp only [loadDirectory, files_of_reordered h, hfiles]

end Reordered

/-! ## what the files come to -/

/-- All files are loaded, each under its stem, or else none is. -/
theorem loadFiles_eq_ok_iff {ps : List Path} {chains : List (String × Document)} :
    (loadFiles fs ps).outcome = .ok chains ↔
      List.Forall₂ (fun p chain => chain.1 = p.stem ∧ load fs p = .ok chain.2) ps chains := by
  induction ps generalizing chains with
  | nil => simp [loadFiles, eq_comm]
  | cons p ps ih =>
    simp only [loadFiles, Logged.outcome_bind_eq_ok, Logged.note, Logged.ofExcept, Logged.pure_eq,
      Except.ok.injEq, ih, List.forall₂_cons_left_iff]
    constructor
    · rintro ⟨-, -, document, hload, rest, hrest, rfl⟩
      exact ⟨(p.stem, document), rest, ⟨rfl, hload⟩, hrest, rfl⟩
    · rintro ⟨⟨stem, document⟩, rest, ⟨rfl, hload⟩, hrest, rfl⟩
      exact ⟨⟨⟩, trivial, document, hload, rest, hrest, rfl⟩

/-- The failure is that of the first file that cannot be loaded. -/
theorem loadFiles_failsBy (ps : List Path) :
    (loadFiles fs ps).FailsBy (fun p e => load fs p = .error e) ps := by
  induction ps with
  | nil => exact .ok
  | cons p ps ih =>
    have hfirst : (Logged.ofExcept (load fs p)).FailsBy (fun p e => load fs p = .error e) [p] :=
      .single fun _ => Iff.rfl
    exact Logged.FailsBy.bind (l := []) .ok fun _ => hfirst.bind fun _ => ih.bind_pure _

/-- What the files of a directory that is there come to. -/
theorem loadDirectory_of_files {names : List String}
    (hfiles : files fs directory = .ok (names.map directory.child)) :
    loadDirectory fs directory =
      if names = [] then throw (.document (.noFiles directory.text))
      else loadFiles fs (names.map directory.child) := by
  rw [loadDirectory, hfiles]
  cases names <;> rfl

end Document

/-! ## repeated stems -/

/-- An element of a list that stands before it already, while those before it are distinct. -/
def FirstRepeated (l : List α) (a : α) : Prop :=
  ∃ i, l[i]? = some a ∧ a ∈ l.take i ∧ (l.take i).Nodup

/-- A list without a repeated element is one without a first repeated element. -/
theorem exists_firstRepeated_iff {l : List α} : (∃ a, FirstRepeated l a) ↔ ¬ l.Nodup := by
  have hnodup := nodup_take_iff (l := l) (i := l.length)
  rw [List.take_length] at hnodup
  constructor
  · rintro ⟨a, i, ha, hmem, -⟩ h
    have hi : i < l.length := (List.getElem?_eq_some_iff.1 ha).1
    exact hnodup.1 h i hi a ha hmem
  · intro h
    rw [hnodup] at h
    push Not at h
    obtain ⟨i, -, a, ha, hmem⟩ := h
    have hfault : ∃ b, FirstFault (fun before x y => y = x ∧ x ∈ before) l b :=
      exists_firstFault ha ⟨rfl, hmem⟩
    obtain ⟨b, j, x, hx, ⟨rfl, hmem⟩, hfirst⟩ := hfault
    refine ⟨b, j, hx, hmem, nodup_take_iff.2 fun k hk y hy hagain => ?_⟩
    exact hfirst k hk y hy y ⟨rfl, hagain⟩

namespace Catalogue

variable {options : Options} {chains before : List (String × Document)}
  {chain : String × Document} {e : BuildError}

/-- A chain whose document can be extracted is at fault only if its name was given before. -/
theorem chainFault_iff_of_extract
    (hextract : ∃ c, (Source.extract ⟨chain.1, chain.2, options⟩).outcome = .ok c) :
    ChainFault options before chain e ↔
      e = .duplicateChain chain.1 ∧ chain.1 ∈ before.map Prod.fst := by
  constructor
  · rintro (again | ⟨-, failed⟩)
    · exact ⟨rfl, again⟩
    · obtain ⟨c, hc⟩ := hextract
      rw [failed] at hc
      cases hc
  · rintro ⟨rfl, again⟩
    exact .duplicate again

/-- If all documents can be extracted, a build fails only for the first name that is given
again. -/
theorem build_eq_error_iff_repeated (hne : chains ≠ [])
    (hextract : ∀ chain ∈ chains, ∃ c,
      (Source.extract ⟨chain.1, chain.2, options⟩).outcome = .ok c) :
    (build options chains).outcome = .error e ↔
      ∃ name, e = .duplicateChain name ∧ FirstRepeated (chains.map Prod.fst) name := by
  have hfault {i : Nat} {chain : String × Document} (hchain : chains[i]? = some chain)
      (e : BuildError) : ChainFault options (chains.take i) chain e ↔
        e = .duplicateChain chain.1 ∧ chain.1 ∈ (chains.map Prod.fst).take i := by
    rw [chainFault_iff_of_extract (hextract chain (List.mem_of_getElem? hchain)), List.map_take]
  rw [build_eq_error_iff]
  simp only [hne, false_and, false_or, FirstRepeated, nodup_take_iff, List.getElem?_map,
    Option.map_eq_some_iff]
  constructor
  · rintro ⟨i, chain, hchain, hdup, hfirst⟩
    obtain ⟨rfl, hagain⟩ := (hfault hchain e).1 hdup
    refine ⟨chain.1, rfl, i, ⟨chain, hchain, rfl⟩, hagain, ?_⟩
    rintro j hj _ ⟨other, hother, rfl⟩ hmem
    exact hfirst j hj other hother _ ((hfault hother _).2 ⟨rfl, hmem⟩)
  · rintro ⟨_, rfl, i, ⟨chain, hchain, rfl⟩, hagain, hnew⟩
    refine ⟨i, chain, hchain, (hfault hchain _).2 ⟨rfl, hagain⟩, ?_⟩
    intro j hj other hother e' hdup
    exact hnew j hj _ ⟨other, hother, rfl⟩ ((hfault hother e').1 hdup).2

end Catalogue

/-! ## a directory -/

namespace Document

variable {fs : FileSystem} {directory : Path} {place names : List String}
  {chains : List (String × Document)} {options : Options}

/-- The stem of the file with a name in a directory. -/
def stemOf (directory : Path) (name : String) : String := (directory.child name).stem

/-- What the files that are considered come to: they are all loaded, each under its stem, or
else the first one that cannot be loaded decides the failure. -/
theorem loadDirectory_of_names (hfiles : files fs directory = .ok (names.map directory.child))
    (hne : names ≠ []) :
    (∀ chains, (loadDirectory fs directory).outcome = .ok chains ↔
      List.Forall₂ (fun name chain => chain.1 = stemOf directory name ∧
        load fs (directory.child name) = .ok chain.2) names chains) ∧
    ∀ e, (loadDirectory fs directory).outcome = .error e ↔
      FirstFault (fun _ name e => load fs (directory.child name) = .error e) names e := by
  rw [loadDirectory_of_files hfiles, if_neg hne]
  refine ⟨fun chains => ?_, fun e => ?_⟩
  · rw [loadFiles_eq_ok_iff, List.forall₂_map_left_iff]
    rfl
  · rw [loadFiles_failsBy]
    simp only [FirstFault, List.getElem?_map, Option.map_eq_some_iff]
    grind

theorem stems_of_loaded (h : List.Forall₂ (fun name chain => chain.1 = stemOf directory name ∧
    load fs (directory.child name) = .ok chain.2) names chains) :
    chains.map Prod.fst = names.map (stemOf directory) := by
  induction h with
  | nil => rfl
  | cons h _ ih => rw [List.map_cons, List.map_cons, h.1, ih]

/-- If the documents of all files can be extracted, a build fails exactly if two of the files
share a stem, and then for the first stem that is repeated. -/
theorem build_of_names (hnames : names.Nodup) (hne : names ≠ [])
    (hstems : chains.map Prod.fst = names.map (stemOf directory))
    (hextract : ∀ chain ∈ chains, ∃ c,
      (Source.extract ⟨chain.1, chain.2, options⟩).outcome = .ok c) :
    ((∃ stem, (Catalogue.build options chains).outcome = .error (.duplicateChain stem)) ↔
      ∃ m ∈ names, ∃ n ∈ names, m ≠ n ∧ stemOf directory m = stemOf directory n) ∧
    ∀ e, (Catalogue.build options chains).outcome = .error e ↔
      ∃ stem, e = .duplicateChain stem ∧ FirstRepeated (names.map (stemOf directory)) stem := by
  have hchains : chains ≠ [] := by
    rintro rfl
    exact hne (List.map_eq_nil_iff.1 hstems.symm)
  have hfails := fun e => Catalogue.build_eq_error_iff_repeated (e := e) hchains hextract
  rw [hstems] at hfails
  refine ⟨?_, hfails⟩
  have hshared : (∃ stem, FirstRepeated (names.map (stemOf directory)) stem) ↔
      ∃ m ∈ names, ∃ n ∈ names, m ≠ n ∧ stemOf directory m = stemOf directory n := by
    rw [exists_firstRepeated_iff, List.nodup_map_iff_inj_on hnames]
    grind
  simpa [hfails] using hshared

/-- **The documents of a directory.**  The order in which a directory lists its entries does
not matter.  The files that are considered are those whose names end in a suffix of
documents, in the order of their names.  If there are none, the directory is refused.
Otherwise all of them are loaded, each under its stem, or else the first one that cannot be
loaded decides the failure.  If the documents can be extracted, a build fails exactly if two
of the files share a stem, and names the first stem that is repeated. -/
theorem loadDirectory_ordered (hfs : fs.IsTree) :
    (∀ (fs' : FileSystem) (directory : Path), fs'.entries.Perm fs.entries →
      fs'.workingDirectory = fs.workingDirectory →
        loadDirectory fs' directory = loadDirectory fs directory) ∧
    ∀ (directory : Path) (place : List String), fs.Opens directory place →
      ∃ names, Considers fs directory place names ∧
        (names = [] → (loadDirectory fs directory).outcome =
          .error (.document (.noFiles directory.text))) ∧
        (names ≠ [] →
          (∀ chains, (loadDirectory fs directory).outcome = .ok chains ↔
            List.Forall₂ (fun name chain => chain.1 = stemOf directory name ∧
              load fs (directory.child name) = .ok chain.2) names chains) ∧
          ∀ e, (loadDirectory fs directory).outcome = .error e ↔
            FirstFault (fun _ name e => load fs (directory.child name) = .error e) names e) ∧
        ∀ chains options, (loadDirectory fs directory).outcome = .ok chains →
          (∀ chain ∈ chains, ∃ c,
            (Source.extract ⟨chain.1, chain.2, options⟩).outcome = .ok c) →
          ((∃ stem, (Catalogue.build options chains).outcome = .error (.duplicateChain stem)) ↔
            ∃ m ∈ names, ∃ n ∈ names, m ≠ n ∧ stemOf directory m = stemOf directory n) ∧
          ∀ e, (Catalogue.build options chains).outcome = .error e ↔
            ∃ stem, e = .duplicateChain stem ∧
              FirstRepeated (names.map (stemOf directory)) stem := by
  refine ⟨fun fs' directory hperm hworking => ?_, fun directory place hopens => ?_⟩
  · exact (loadDirectory_of_reordered ⟨hfs.distinct, hperm.symm, hworking.symm⟩ directory).symm
  · obtain ⟨names, hfiles, hconsiders⟩ := exists_files hfs hopens
    refine ⟨names, hconsiders, fun hnil => ?_, loadDirectory_of_names hfiles, ?_⟩
    · rw [loadDirectory_of_files hfiles, if_pos hnil]
      rfl
    · intro chains options hload hextract
      have hne : names ≠ [] := by
        intro hnil
        rw [loadDirectory_of_files hfiles, if_pos hnil] at hload
        cases hload
      have hloaded := ((loadDirectory_of_names hfiles hne).1 chains).1 hload
      exact build_of_names hconsiders.nodup hne (stems_of_loaded hloaded) hextract

/-- A description that states its version and nothing else. -/
def chainText : String := "swagger: '2.0'\n"

/-- The bytes of that description. -/
def chainBytes : List UInt8 := chainText.toList.map fun c => UInt8.ofNat c.toNat

/-- The directory in which the description stands. -/
def chainDirectory : Path := ⟨"", ["chains"]⟩

/-- The description under some names, and nothing else. -/
def chainFiles (listed : List String) : FileSystem where
  entries := listed.map fun name => (["chains", name], .file chainBytes)

theorem ofText_chainText (source : String) :
    ofText chainText source = .ok { swagger := "2.0" } := by
  have hparse : Yaml.parse chainText = .ok ⟨.map [(.str "swagger", .str "2.0")], []⟩ := by
    have hparts : (Yaml.parse chainText).map (fun data => (data.value, data.knots)) =
        .ok (.map [(.str "swagger", .str "2.0")], []) := by decide +kernel
    cases hdata : Yaml.parse chainText with
    | error f =>
      rw [hdata] at hparts
      cases hparts
    | ok data =>
      rw [hdata] at hparts
      obtain ⟨value, knots⟩ := data
      cases hparts
      rfl
  have hlegible : Format.isLegible ⟨.map [(.str "swagger", .str "2.0")], []⟩ = true := by
    simp [Format.isLegible, Value.get?, Value.entries, Value.isUnspellable]
  simp only [ofText, hparse, hlegible, if_true]
  rfl

section ChainFiles

variable {listed : List String} {name : String}

@[simp] theorem places_chainFiles :
    (chainFiles listed).places = listed.map fun name => ["chains", name] := by
  simp [places, chainFiles]

theorem lookup_chainFiles (place : List String) : (chainFiles listed).entries.lookup place =
    if ∃ name ∈ listed, place = ["chains", name] then some (.file chainBytes) else none := by
  induction listed with
  | nil => simp [chainFiles]
  | cons other listed ih =>
    rw [chainFiles] at ih ⊢
    rw [List.map_cons, List.lookup_cons, ih]
    by_cases heq : place = ["chains", other]
    · simp [heq]
    · have hne : (place == ["chains", other]) = false := by simpa using heq
      simp [hne, heq]

theorem get?_chainFiles (h : name ∈ listed) :
    (chainFiles listed).get? (["chains"] ++ [name]) = some (.file chainBytes) :=
  get?_of_lookup_eq_some (by rw [lookup_chainFiles, if_pos ⟨name, h, rfl⟩])

theorem isSome_get?_chainFiles :
    ((chainFiles listed).get? (["chains"] ++ [name])).isSome ↔ name ∈ listed := by
  rw [isSome_get?_iff (by simp)]
  simp

theorem get?_root_chainFiles : (chainFiles listed).get? [] = some .directory := by
  rw [get?_of_lookup_eq_none (by simp [lookup_chainFiles]), if_pos (.inl rfl)]

theorem get?_directory_chainFiles (h : listed ≠ []) :
    (chainFiles listed).get? ["chains"] = some .directory := by
  obtain ⟨name, hname⟩ := List.exists_mem_of_ne_nil listed h
  rw [get?_of_lookup_eq_none (by simp [lookup_chainFiles]),
    if_pos (.inr ⟨["chains", name], by simpa using hname, by simp⟩)]

theorem isName_chains : IsName "chains" := ⟨by decide, by decide, by decide, by decide⟩

theorem isTree_chainFiles (hnodup : listed.Nodup) (hnames : ∀ s ∈ listed, IsName s) :
    (chainFiles listed).IsTree := by
  refine .of_entries ?_ ?_ ?_ get?_root_chainFiles
  · rw [places_chainFiles]
    exact hnodup.map fun a b heq => by simpa using heq
  · simpa [isName_chains] using hnames
  · rw [places_chainFiles]
    simp only [chainFiles, List.mem_map]
    rintro _ ⟨a, -, rfl⟩ -
    refine ⟨by simp, ?_⟩
    rintro _ ⟨b, -, rfl⟩ hprefix
    simpa [eq_comm] using hprefix

theorem opens_chainFiles (hne : listed ≠ [])
    (hshort : ∀ s ∈ "chains" :: listed.map ("chains/" ++ ·), checkText s = .ok ()) :
    (chainFiles listed).Opens chainDirectory ["chains"] := by
  have hwalk : (chainFiles listed).walk [] chainDirectory.segments = .ok ["chains"] :=
    walk_singleton get?_root_chainFiles isName_chains
  refine ⟨?_, get?_directory_chainFiles hne, fun other hother => ?_⟩
  · rw [FileSystem.resolve, hshort chainDirectory.text List.mem_cons_self]
    exact hwalk
  · refine hshort _ (List.mem_cons_of_mem _ ?_)
    exact List.mem_map.2 ⟨other, isSome_get?_chainFiles.1 hother, rfl⟩

theorem considers_chainFiles {names : List String} (hascending : names.Pairwise fun a b => Text.AtMost a b ∧ a ≠ b)
    (hmem : ∀ name, name ∈ names ↔ name ∈ listed ∧ isDocumentPath (chainDirectory.child name)) :
    Considers (chainFiles listed) chainDirectory ["chains"] names := by
  refine ⟨hascending, fun name => (hmem name).trans (and_congr_left fun _ => ?_)⟩
  refine ⟨fun h => ⟨_, get?_chainFiles h⟩, fun ⟨content, hfile⟩ => ?_⟩
  exact isSome_get?_chainFiles.1 (Option.isSome_iff_exists.2 ⟨_, hfile⟩)

theorem load_chainFiles (hfs : (chainFiles listed).IsTree)
    (hopens : (chainFiles listed).Opens chainDirectory ["chains"]) (h : name ∈ listed) :
    load (chainFiles listed) (chainDirectory.child name) = .ok { swagger := "2.0" } := by
  have hfile := get?_chainFiles h
  have hread : (chainFiles listed).read (chainDirectory.child name) = .ok chainBytes := by
    rw [FileSystem.read, hopens.find_child (hfs.named hfile) hfile]
    rfl
  have htext : Text.Utf8.decode? chainBytes = some chainText := by decide
  simp only [load, hread, htext, ofText_chainText]

end ChainFiles

/-- Four files and a note, out of order. -/
def listedNames : List String := ["x.yml", "a.yaml", "notes.txt", "x.json", "a-b.yaml"]

theorem isTree_listedNames : (chainFiles listedNames).IsTree := by
  refine isTree_chainFiles (by decide) fun s hs => ?_
  have hname : ∀ s ∈ listedNames, s ≠ "" ∧ s ≠ "." ∧ s ≠ ".." ∧ isLongName s = false := by decide
  obtain ⟨hempty, hhere, hup, hshort⟩ := hname s hs
  exact ⟨hempty, hhere, hup, hshort⟩

theorem opens_listedNames : (chainFiles listedNames).Opens chainDirectory ["chains"] := by
  refine opens_chainFiles (by decide) ?_
  simp [listedNames, checkText]
  decide

theorem considers_listedNames : Considers (chainFiles listedNames) chainDirectory ["chains"]
    ["a-b.yaml", "a.yaml", "x.json", "x.yml"] := by
  have hdocument : ∀ name ∈ listedNames, isDocumentPath (chainDirectory.child name) = true ↔
      name ∈ ["a-b.yaml", "a.yaml", "x.json", "x.yml"] := by
    decide +kernel
  refine considers_chainFiles (by decide) fun name => ?_
  rw [and_congr_right_iff.2 (hdocument name)]
  simp only [listedNames, List.mem_cons, List.not_mem_nil, or_false]
  tauto

/-- The files are taken in the order of their names, which is not that of their stems, in
whatever order they are listed, and the build fails for the stem that two of them share. -/
theorem loadDirectory_ordered_listedNames :
    (chainFiles listedNames).IsTree ∧ (chainFiles listedNames).Opens chainDirectory ["chains"] ∧
    (∀ order, order.Perm (chainFiles listedNames).entries →
      (loadDirectory { entries := order } chainDirectory).outcome =
        .ok (["a-b", "a", "x", "x"].map fun stem => (stem, { swagger := "2.0" }))) ∧
    (Catalogue.build {}
      (["a-b", "a", "x", "x"].map fun stem => (stem, { swagger := "2.0" }))).outcome =
        .error (.duplicateChain "x") := by
  obtain ⟨hperm, hdirectory⟩ := loadDirectory_ordered isTree_listedNames
  obtain ⟨names, hconsiders, -, hload, hbuild⟩ := hdirectory _ _ opens_listedNames
  obtain rfl := hconsiders.unique considers_listedNames
  have hfile {name : String} (hname : name ∈ listedNames) :=
    load_chainFiles isTree_listedNames opens_listedNames hname
  have hchains : (loadDirectory (chainFiles listedNames) chainDirectory).outcome =
      .ok (["a-b", "a", "x", "x"].map fun stem => (stem, { swagger := "2.0" })) := by
    refine ((hload (by simp)).1 _).2 ?_
    simp only [List.map_cons, List.map_nil, List.forall₂_cons, List.Forall₂.nil, and_true]
    exact ⟨⟨by decide, hfile (by decide)⟩, ⟨by decide, hfile (by decide)⟩,
      ⟨by decide, hfile (by decide)⟩, ⟨by decide, hfile (by decide)⟩⟩
  have hrepeated : FirstRepeated (["a-b.yaml", "a.yaml", "x.json", "x.yml"].map
      (stemOf chainDirectory)) "x" := ⟨3, by decide, by decide, by decide⟩
  refine ⟨isTree_listedNames, opens_listedNames, fun order horder => ?_, ?_⟩
  · rw [hperm { entries := order } chainDirectory horder rfl, hchains]
  · refine ((hbuild _ {} hchains fun chain hchain => ?_).2 _).2 ⟨"x", rfl, hrepeated⟩
    obtain ⟨stem, -, rfl⟩ := List.mem_map.1 hchain
    exact ⟨_, rfl⟩

end Document

end ChainApi
