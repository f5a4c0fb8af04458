import ChainApi.CommandLine
import ChainApi.Proofs.Directory
import ChainApi.Proofs.Json.Loading
import ChainApi.Proofs.Utf8
import ChainApi.Proofs.Yaml.Breakdowns

/-!
# ChainApi.Proofs.Loading

What files that can be read come to.  The program has words of its own for a text that is
malformed, for another format and for data that does not fit; it breaks down over bytes
that are no text, over values that are spelled wrong, and over a few more things that the
tokens of the text show.

* `LoadError.Tells` — what each failure tells about the bytes;
* `Document.load_failures` — all failures of a file, and what becomes of them.
-/

namespace ChainApi

/-- What there is to say of a text if loading it has this failure. -/
def LoadError.TellsText (text source : String) : LoadError → Prop
  | .document (.undecodable source') => source' = source ∧ Yaml.parse text = .error .malformed
  | .document (.unsupportedFormat source' format) =>
    source' = source ∧ ∃ data, Yaml.parse text = .ok data ∧ Format.isLegible data = true ∧
      Format.detect data.value = format ∧ format ≠ .swagger2
  | .document (.illFitting source' problems) =>
    source' = source ∧ ∃ data, Yaml.parse text = .ok data ∧ Format.isLegible data = true ∧
      Format.detect data.value = .swagger2 ∧ (Document.read data).toExcept = .error problems
  | .breakdown (.yaml f) =>
    f ≠ .malformed ∧ Yaml.parse text = .error f ∧ Yaml.Cause (Yaml.Token.ofString text) f
  | .breakdown .longVersion => ∃ data, Yaml.parse text = .ok data ∧ Format.isLegible data = false
  | _ => False

/-- What there is to say of the bytes of a file if loading it has this failure. -/
def LoadError.Tells (content : List UInt8) (source : String) (e : LoadError) : Prop :=
  match Text.Utf8.decode? content with
  | none => e = .breakdown .notUnicode
  | some text => e.TellsText text source

/-- Has the program words for the failure? -/
def LoadError.IsOwn : LoadError → Prop
  | .document _ => True
  | .breakdown _ => False

namespace Document

variable {fs : FileSystem} {p : Path} {content : List UInt8} {text source : String}

/-- The failures of decoded data. -/
theorem parse_eq_error_iff {data : Data} {e : DocumentError} :
    parse data source = .error e ↔
      (∃ format, e = .unsupportedFormat source format ∧ Format.detect data.value = format ∧
        format ≠ .swagger2) ∨
      ∃ problems, e = .illFitting source problems ∧ Format.detect data.value = .swagger2 ∧
        (Document.read data).toExcept = .error problems := by
  rw [parse]
  cases hformat : Format.detect data.value with
  | swagger2 =>
    cases hread : (Document.read data).toExcept <;> simp [Except.mapError, eq_comm]
  | openapi3 => simp [eq_comm]
  | unknown => simp [eq_comm]

theorem ofText_eq_error_iff {e : LoadError} :
    ofText text source = .error e ↔ e.TellsText text source := by
  cases hparse : Yaml.parse text with
  | error f =>
    have hcause := Yaml.cause_of_parse hparse
    by_cases hf : f = .malformed
    · have hload : ofText text source = .error (.document (.undecodable source)) := by
        simp [ofText, hparse, hf]
      rw [hload]
      rcases e with (_ | _ | _ | _) | (_ | _ | _ | _ | _ | _) <;>
        simp [LoadError.TellsText, hparse, hf]
      · exact eq_comm
      · exact fun hne heq => absurd heq.symm hne
    · have hload : ofText text source = .error (.breakdown (.yaml f)) := by
        cases f <;> simp_all [ofText]
      rw [hload]
      rcases e with (_ | _ | _ | _) | (_ | _ | _ | _ | _ | _) <;>
        simp [LoadError.TellsText, hparse, hf]
      grind
  | ok data =>
    cases hlegible : Format.isLegible data with
    | false =>
      have hload : ofText text source = .error (.breakdown .longVersion) := by
        simp [ofText, hparse, hlegible]
      rw [hload]
      rcases e with (_ | _ | _ | _) | (_ | _ | _ | _ | _ | _) <;>
        simp [LoadError.TellsText, hparse, hlegible]
    | true =>
      have hload : ofText text source = (parse data source).mapError .document := by
        simp [ofText, hparse, hlegible]
      have hmap : (parse data source).mapError LoadError.document = .error e ↔
          ∃ d, e = .document d ∧ parse data source = .error d := by
        cases parse data source <;> simp [Except.mapError, eq_comm]
      simp only [hload, hmap, parse_eq_error_iff]
      rcases e with (_ | _ | _ | _) | (_ | _ | _ | _ | _ | _) <;>
        simp [LoadError.TellsText, hparse, hlegible]
      grind

/-- What each failure of a file tells. -/
theorem load_eq_error_iff (hread : fs.read p = .ok content) {e : LoadError} :
    load fs p = .error e ↔ e.Tells content p.text := by
  simp only [load, hread, LoadError.Tells]
  cases hdecode : Text.Utf8.decode? content with
  | none => simp [eq_comm]
  | some text => exact ofText_eq_error_iff

/-! ## what becomes of a failure -/

/-- A run of the program ends with the failure of the first file that cannot be loaded, and
tells it if there are words for it. -/
theorem generate_of_load_error (output : Path) (options : Options) {directory : Path}
    {before after : List String} {name : String} {e : LoadError}
    (hfiles : files fs directory = .ok ((before ++ name :: after).map directory.child))
    (hbefore : ∀ other ∈ before, ∃ document, load fs (directory.child other) = .ok document)
    (he : load fs (directory.child name) = .error e) :
    ∃ stdout log, CommandLine.generate fs directory output options =
      .ofFailure stdout log fs (.ofLoad e) := by
  have hfault : FirstFault (fun _ name e => load fs (directory.child name) = .error e)
      (before ++ name :: after) e := by
    refine ⟨before.length, name, by simp, he, fun j hj other hother e' he' => ?_⟩
    rw [List.getElem?_append_left hj] at hother
    obtain ⟨document, hdocument⟩ := hbefore other (List.mem_of_getElem? hother)
    cases hdocument.symm.trans he'
  have hload := ((loadDirectory_of_names hfiles (by simp)).2 e).2 hfault
  exact ⟨_, _, by simp only [CommandLine.generate, hload]; rfl⟩

/-- **Failures of files.**  Whatever a file that can be read holds, this is what each failure
to load it tells about the bytes.  Apart from a version that is too long to be written out,
all failures are the program's own if the bytes are a text whose tokens are sober.  A run
that meets the file reports the failure and ends; it breaks down exactly if the failure is
not the program's own. -/
theorem load_failures (hread : fs.read p = .ok content) :
    (∀ e, load fs p = .error e ↔ e.Tells content p.text) ∧
    (∀ text, Text.Utf8.decode? content = some text → Yaml.Sober (Yaml.Token.ofString text) →
      ∀ e, load fs p = .error e → e.IsOwn ∨ e = .breakdown .longVersion) ∧
    ∀ directory before name after, directory.child name = p →
      files fs directory = .ok ((before ++ name :: after).map directory.child) →
      (∀ other ∈ before, ∃ document, load fs (directory.child other) = .ok document) →
      ∀ e, load fs p = .error e → ∀ output options, ∃ stdout log,
        CommandLine.generate fs directory output options =
          .ofFailure stdout log fs (.ofLoad e) ∧
        ((CommandLine.generate fs directory output options).breakdown = none ↔ e.IsOwn) := by
  refine ⟨fun e => load_eq_error_iff hread, fun text htext hsober e he => ?_, ?_⟩
  · have htells := (load_eq_error_iff hread).1 he
    rw [LoadError.Tells, htext] at htells
    cases e with
    | document d => exact .inl trivial
    | breakdown b =>
      cases b with
      | yaml f => exact absurd (hsober.eq_malformed htells.2.2) htells.1
      | longVersion => exact .inr rfl
      | _ => exact htells.elim
  · rintro directory before name after rfl hfiles hbefore e he output options
    obtain ⟨stdout, log, hrun⟩ := generate_of_load_error output options hfiles hbefore he
    refine ⟨stdout, log, hrun, ?_⟩
    rw [hrun]
    cases e <;> simp [CommandLine.Failure.ofLoad, CommandLine.Outcome.ofFailure, LoadError.IsOwn]

/-! ## files -/

/-- Is this a failure for a reason? -/
def isError (f : Yaml.Fault) : Except Yaml.Fault α → Bool
  | .error g => g == f
  | .ok _ => false

theorem eq_error_of_isError {f : Yaml.Fault} {x : Except Yaml.Fault α} (h : isError f x = true) :
    x = .error f := by
  cases x with
  | error g => exact congrArg _ (eq_of_beq h)
  | ok a => cases h

theorem decode?_chainBytes : Text.Utf8.decode? chainBytes = some chainText := by decide

/-- The description that states its version is sober. -/
theorem sober_chainText : Yaml.Sober (Yaml.Token.ofString chainText) := by
  have htokens : Yaml.Token.ofString chainText = [.blockMapping, .key, .scalar "swagger" true,
      .value, .scalar "2.0" false, .blockEnd, .streamEnd] := by decide +kernel
  rw [htokens]
  refine ⟨by simp, by simp, fun text f htext hread => ?_, fun front opened hfront hopened => ?_⟩
  · have hspelling : Yaml.Tag.ofSpelling "swagger" = .str := by decide +kernel
    obtain rfl : text = "swagger" := by simpa using htext
    rw [hspelling] at hread
    cases hread
  · have hlength := hfront.length_le
    have hcount := List.countP_le_length (p := Yaml.Token.opens) (l := front)
    simp only [List.length_cons, List.length_nil] at hlength
    rw [Yaml.Parse.maxDepth]
    omega

/-- What is left of the description without the end of its line and its quote. -/
def brokenBytes : List UInt8 := chainBytes.take 13

/-- The description is loaded, and a text that breaks off inside quotes is told to be no
document. -/
theorem load_failures_brokenBytes :
    (versionFile chainBytes).read versionPath = .ok chainBytes ∧
    (∀ e, load (versionFile chainBytes) versionPath = .error e →
      e.IsOwn ∨ e = .breakdown .longVersion) ∧
    (versionFile brokenBytes).read versionPath = .ok brokenBytes ∧
    load (versionFile brokenBytes) versionPath = .error (.document (.undecodable "kyve.json")) := by
  have hdecode : Text.Utf8.decode? brokenBytes = some "swagger: '2.0" := by decide
  have hparse : Yaml.parse "swagger: '2.0" = .error .malformed :=
    eq_error_of_isError (by decide +kernel)
  have hbroken := (load_failures (read_versionFile brokenBytes)).1
    (.document (.undecodable "kyve.json"))
  refine ⟨read_versionFile _, ?_, read_versionFile _, hbroken.2 ?_⟩
  · exact (load_failures (read_versionFile chainBytes)).2.1 _ decode?_chainBytes sober_chainText
  · rw [LoadError.Tells, hdecode]
    exact ⟨rfl, hparse⟩

/-- The description with a byte behind it that belongs to no character. -/
def strayBytes : List UInt8 := chainBytes ++ [0xFF]

/-- A text with a date that is none. -/
def datedText : String := "info: 2020-13-45\n"

/-- Neither for a byte that belongs to no character nor for a date that is none does the
program have words. -/
theorem load_strayBytes :
    (versionFile strayBytes).read versionPath = .ok strayBytes ∧
    load (versionFile strayBytes) versionPath = .error (.breakdown .notUnicode) ∧
    ¬ (LoadError.breakdown .notUnicode).IsOwn ∧
    Text.Utf8.decode? (Text.Utf8.encode datedText) = some datedText ∧
    load (versionFile (Text.Utf8.encode datedText)) versionPath =
      .error (.breakdown (.yaml .badNumeral)) ∧
    ¬ (LoadError.breakdown (.yaml .badNumeral)).IsOwn := by
  have hstray : Text.Utf8.decode? strayBytes = none := by decide
  have hdated := Text.Utf8.decode?_encode datedText
  have hparse : Yaml.parse datedText = .error .badNumeral :=
    eq_error_of_isError (by decide +kernel)
  refine ⟨read_versionFile _, ?_, not_false, hdated, ?_, not_false⟩
  · simp only [load, read_versionFile, hstray]
  · simp only [load, read_versionFile, hdated, ofText, hparse]

end Document

end ChainApi
