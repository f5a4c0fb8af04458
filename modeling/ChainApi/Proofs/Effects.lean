import ChainApi.CommandLine
import ChainApi.Proofs.Directory
import ChainApi.Proofs.Utf8
import ChainApi.Proofs.Writing

/-!
# ChainApi.Proofs.Effects

What the commands leave behind.  Everything that can fail is done before the first
directory is made, so that a failure leaves the files as they were; and once there is
something to save, one file and the directories on the way to it are all that changes.

* `writeText_eq_ok_iff`, `writeText_writesOnly` — a text saved to a file;
* `perform_allOrNothing` — the two commands.
-/

namespace ChainApi.CommandLine

open FileSystem

variable {files : FileSystem} {output directory : Path} {text : String} {cs : List Char}

/-! ## a text saved to a file -/

/-- A text without a mark has bytes. -/
theorem encodeText?_of_not_mem (h : Text.mark ∉ text.toList) :
    Text.Utf8.encodeText? text = some (Text.Utf8.encode text) := by
  rw [Text.Utf8.encodeText?, Text.chars?_of_not_mem h, Option.map_some, String.ofList_toList]

/-- The bytes of a text are those of its characters, and are read as these. -/
theorem decode?_of_encodeText? {bytes : List UInt8}
    (h : Text.Utf8.encodeText? text = some bytes) :
    Text.Utf8.decode? bytes = (Text.chars? text).map String.ofList := by
  rw [Text.Utf8.encodeText?, Option.map_eq_some_iff] at h
  obtain ⟨cs, hcs, rfl⟩ := h
  rw [Text.Utf8.decode?_encode, hcs, Option.map_some]

/-- A text is saved exactly if the file can be written and the text has bytes. -/
theorem writeText_eq_ok_iff (hfiles : files.IsTree) (houtput : output.IsPlain) :
    (writeText files output text).2 = .ok () ↔
      files.Writable output ∧ (Text.Utf8.encodeText? text).isSome := by
  rw [← hfiles.write_eq_ok_iff houtput ((Text.Utf8.encodeText? text).getD []), writeText]
  rcases files.write output ((Text.Utf8.encodeText? text).getD []) with ⟨files', e | ⟨⟨⟩⟩⟩
  · simp
  · cases Text.Utf8.encodeText? text <;> simp

/-- A text that is saved is all that changes. -/
theorem writeText_writesOnly (hfiles : files.IsTree) (houtput : output.IsPlain)
    {bytes : List UInt8} (hbytes : Text.Utf8.encodeText? text = some bytes)
    (hw : files.Writable output) :
    files.WritesOnly output bytes (writeText files output text).1 := by
  have hok := (hfiles.write_eq_ok_iff houtput bytes).2 hw
  have hwrites := (hfiles.writesOnly houtput hok).2
  have hsame : (writeText files output text).1 = (files.write output bytes).1 := by
    rw [writeText, hbytes, Option.getD_some]
    rcases files.write output bytes with ⟨files', e | ⟨⟨⟩⟩⟩ <;> rfl
  rwa [hsame]

/-! ## outcomes -/

@[simp] theorem exitCode_ofFailure (stdout : String) (log : List Notice) (files : FileSystem)
    (failure : Failure) : (Outcome.ofFailure stdout log files failure).exitCode = 1 := by
  cases failure <;> rfl

/-- What is generated is saved as it is. -/
theorem generate_of_built (output : Path) {options : Options}
    {chains : List (String × Document)} {catalogue : Catalogue}
    (hload : (Document.loadDirectory files directory).outcome = .ok chains)
    (hbuild : (Catalogue.build options chains).outcome = .ok catalogue) :
    (generate files directory output options).files =
      (writeText files output (catalogue.emit options.pagination)).1 ∧
    ((generate files directory output options).exitCode = 0 ↔
      (writeText files output (catalogue.emit options.pagination)).2 = .ok ()) := by
  simp only [generate, hload, hbuild]
  rcases writeText files output (catalogue.emit options.pagination) with ⟨files', b | ⟨⟨⟩⟩⟩ <;> simp

/-- **All or nothing.**  If the documents of a directory cannot be loaded, or no catalogue can
be built of them, for whatever reason, the files are left as they were.  Otherwise the run
succeeds exactly if the output can be written and the generated text has bytes; the output
then holds these bytes, which are read as the text, and nothing else changes but for new
directories on the way to it.  A document that cannot be fetched leaves the files as they
were, too. -/
theorem perform_allOrNothing (hfiles : files.IsTree) (houtput : output.IsPlain)
    (network : Network) :
    (∀ directory options verbose,
      (∀ e, (Document.loadDirectory files directory).outcome = .error e →
        (perform files network (.generate directory output options verbose)).files = files ∧
        (perform files network (.generate directory output options verbose)).exitCode = 1) ∧
      ∀ chains, (Document.loadDirectory files directory).outcome = .ok chains →
        (∀ e, (Catalogue.build options chains).outcome = .error e →
          (perform files network (.generate directory output options verbose)).files = files ∧
          (perform files network (.generate directory output options verbose)).exitCode = 1) ∧
        ∀ catalogue, (Catalogue.build options chains).outcome = .ok catalogue →
          ((perform files network (.generate directory output options verbose)).exitCode = 0 ↔
            files.Writable output ∧
              (Text.Utf8.encodeText? (catalogue.emit options.pagination)).isSome) ∧
          ∀ bytes, Text.Utf8.encodeText? (catalogue.emit options.pagination) = some bytes →
            files.Writable output →
            files.WritesOnly output bytes
              (perform files network (.generate directory output options verbose)).files ∧
            Text.Utf8.decode? bytes =
              (Text.chars? (catalogue.emit options.pagination)).map String.ofList) ∧
    ∀ url e, Exchange.fetch network url = .error e →
      (perform files network (.fetch url output)).files = files ∧
      (perform files network (.fetch url output)).exitCode = 1 := by
  refine ⟨fun directory options verbose => ⟨fun e hload => ?_, fun chains hload =>
    ⟨fun e hbuild => ?_, fun catalogue hbuild => ?_⟩⟩, fun url e hfetch => ?_⟩
  · simp [perform, generate, hload]
  · simp [perform, generate, hload, hbuild]
  · obtain ⟨hsaved, hexit⟩ := generate_of_built output hload hbuild
    refine ⟨hexit.trans (writeText_eq_ok_iff hfiles houtput), fun bytes hbytes hw => ?_⟩
    refine ⟨?_, decode?_of_encodeText? hbytes⟩
    show files.WritesOnly output bytes (generate files directory output options).files
    rw [hsaved]
    exact writeText_writesOnly hfiles houtput hbytes hw
  · simp [perform, fetch, hfetch]

/-! ## a run -/

/-- The declarations of no operations hold no mark. -/
theorem mark_not_mem_emit : Text.mark ∉ (Catalogue.emit {} false).toList := by
  have hlines : ∀ line ∈ Catalogue.lines {} false, Text.mark ∉ line.toList := by
    have hentries : Table.entries (∅ : Catalogue) = [] := rfl
    have hnames : Catalogue.chainNames {} = [] := rfl
    simp only [Catalogue.lines, headerLine, lookupTypes, LookupType.lines, indent, chainUnion,
      hentries, hnames, List.flatMap_cons, List.flatMap_nil, List.cons_append, List.nil_append,
      List.append_nil, List.isEmpty_nil, if_true, Bool.false_eq_true, if_false,
      List.forall_mem_cons, String.toList_append, List.mem_append, not_or]
    -- what is left are the pieces that the lines are made of
    and_intros <;> first | exact List.forall_mem_nil _ | (rw [String.toList_ofList]; decide)
  have hbreak : Text.mark ≠ '\n' := by decide
  simpa [Catalogue.emit, hbreak] using hlines

/-- A directory with one description. -/
def soleFiles : FileSystem := Document.chainFiles ["kyve.yaml"]

/-- A file in a directory that is not there yet. -/
def typesPath : Path := ⟨"", ["out", "api.ts"]⟩

theorem isTree_soleFiles : soleFiles.IsTree := by
  have hname : IsName "kyve.yaml" := ⟨by decide, by decide, by decide, by decide⟩
  exact Document.isTree_chainFiles (by decide) (by simpa using hname)

theorem loadDirectory_soleFiles :
    (Document.loadDirectory soleFiles Document.chainDirectory).outcome =
      .ok [("kyve", { swagger := "2.0" })] := by
  have hopens : soleFiles.Opens Document.chainDirectory ["chains"] := by
    refine Document.opens_chainFiles (by decide) ?_
    simp [checkText]
    decide
  obtain ⟨names, hnames, hconsiders⟩ := Document.exists_files isTree_soleFiles hopens
  have hdocument : Document.isDocumentPath (Document.chainDirectory.child "kyve.yaml") = true := by
    decide +kernel
  obtain rfl : names = ["kyve.yaml"] := by
    refine hconsiders.unique (Document.considers_chainFiles (by simp) fun name => ?_)
    simp +contextual [hdocument]
  refine ((Document.loadDirectory_of_names hnames (by simp)).1 _).2 ?_
  simp only [List.forall₂_cons, List.Forall₂.nil, and_true]
  exact ⟨by decide, Document.load_chainFiles isTree_soleFiles hopens (by simp)⟩

theorem writable_typesPath : soleFiles.Writable typesPath := by
  have hout : soleFiles.get? ["out"] = none := by decide
  have hfree : soleFiles.get? ["out", "api.ts"] = none := by decide
  have hway : soleFiles.parents typesPath = [["out"]] := by decide
  have hlocate : soleFiles.locate typesPath = ["out", "api.ts"] := by decide
  refine ⟨?_, ?_, by decide, ?_, ?_, ?_⟩
  · simp [typesPath, Path.parent, checkText]
    decide
  · simp [typesPath, checkText]
    decide
  · simp [hway, hout]
  · simp [hlocate, hfree]
  · simp [hlocate, hway]

/-- The types of one description are written to a new directory; a document that cannot be
fetched is not. -/
theorem perform_allOrNothing_soleFiles :
    soleFiles.IsTree ∧ typesPath.IsPlain ∧
    soleFiles.WritesOnly typesPath (Text.Utf8.encode (Catalogue.emit {} false))
      (perform soleFiles (fun _ => .unreachable "down")
        (.generate Document.chainDirectory typesPath {} false)).files ∧
    (perform soleFiles (fun _ => .unreachable "down")
      (.fetch "https://example.com" typesPath)).files = soleFiles := by
  have hplain : typesPath.IsPlain := by
    simp [Path.IsPlain, typesPath]
  have hbuild : (Catalogue.build {} [("kyve", { swagger := "2.0" })]).outcome = .ok {} := rfl
  have hbytes := encodeText?_of_not_mem mark_not_mem_emit
  obtain ⟨hgenerate, hfetch⟩ :=
    perform_allOrNothing isTree_soleFiles hplain fun _ => .unreachable "down"
  refine ⟨isTree_soleFiles, hplain, ?_, (hfetch _ _ rfl).1⟩
  obtain ⟨-, hsaved⟩ :=
    ((hgenerate Document.chainDirectory {} false).2 _ loadDirectory_soleFiles).2 _ hbuild
  exact (hsaved _ hbytes writable_typesPath).1

end ChainApi.CommandLine
