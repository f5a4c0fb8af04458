import ChainApi.Document.Load
import ChainApi.Proofs.Json.Reading
import ChainApi.Proofs.Yaml.Tokens
import ChainApi.Proofs.Yaml.Weaving

/-!
# ChainApi.Proofs.Json.Loading

Files that hold JSON texts.  The loader takes every file for YAML, of which JSON is meant
to be a part.  It is one up to what `WrittenText.Common` names, the first of which are
tabs: within that part a file is loaded as the data that the JSON text stands for.

* `Yaml.parse_text` — a JSON text within the common part has the same data in YAML;
* `Document.load_json` — its file loads like the data;
* `Document.load_tabs` — a file with tabs does not.
-/

namespace ChainApi

open Json

variable {t : WrittenText}

/-- A JSON text within the part that YAML shares denotes the same data there. -/
theorem Yaml.parse_text (ht : t.Valid) (hcommon : t.Common) (hword : t.content.isWord = false) :
    Yaml.parse (String.ofList t.text) = .ok ⟨t.content.value, []⟩ := by
  obtain ⟨g, hgraph, hroot⟩ := Graph.ofTokens?_tokens ht.content hcommon.depth_le
  rw [Yaml.parse, String.toList_ofList, Token.ofText_text ht hcommon hword, hgraph]
  exact Graph.toData_eq hroot

/-! ## versions -/

/-- The number that digits denote is bounded by how many there are. -/
theorem Json.digitsValue_lt {ds : List Char} (h : ∀ c ∈ ds, c.isDigit = true) :
    digitsValue ds < pow10 ds.length := by
  have hstart (n : Nat) (ds : List Char) (h : ∀ c ∈ ds, c.isDigit = true) :
      ds.foldl (fun n d => n * 10 + (d.toNat - 48)) n < (n + 1) * pow10 ds.length := by
    induction ds generalizing n with
    | nil => simp [pow10]
    | cons d ds ih =>
      have hd := toNat_of_isDigit (h d List.mem_cons_self)
      have hlt := ih (n * 10 + (d.toNat - 48)) fun c hc => h c (List.mem_cons_of_mem _ hc)
      have hpow : pow10 (d :: ds).length = 10 * pow10 ds.length := Nat.pow_succ'
      refine Nat.lt_of_lt_of_le hlt ?_
      rw [hpow, ← Nat.mul_assoc]
      exact Nat.mul_le_mul_right _ (by omega)
  simpa [digitsValue] using hstart 0 ds h

/-- An integer that is written can be written out again. -/
theorem Json.isLong_integerValue {negative : Bool} {ds : List Char} (hds : Digits ds) :
    Value.isLong (integerValue negative ds) = false := by
  have hlt : digitsValue ds < pow10 Text.Numeral.maxDigits :=
    Nat.lt_of_lt_of_le (digitsValue_lt hds.digits) (pow10_le_pow10 hds.length_le)
  have habs : (integerValue negative ds).natAbs = digitsValue ds := by
    cases negative <;> simp [integerValue]
  rw [Value.isLong, habs, decide_eq_false (Nat.not_le.2 hlt), Bool.and_false]

namespace Value

variable {knots : Knots} {fuel : Nat} {es : List (Value × Value)}

theorem hasUnspellableEntry_eq_false : hasUnspellableEntry knots fuel es = false ↔
    ∀ e ∈ es, e.1.isUnspellable knots fuel = false ∧ e.2.isUnspellable knots fuel = false := by
  induction es with
  | nil => simp [hasUnspellableEntry]
  | cons e es ih =>
    obtain ⟨k, v⟩ := e
    simp [hasUnspellableEntry, ih, and_assoc]

end Value

mutual

/-- A value that is written holds no integer that is too long to be written. -/
theorem Json.Written.isUnspellable (w : Written) (hw : w.Valid) (knots : Knots) (fuel : Nat) :
    w.value.isUnspellable knots fuel = false := by
  match w with
  | .null | .bool _ | .string _ => simp [Written.value, Value.isUnspellable]
  | .emptyList _ => simp [Written.value, Value.isUnspellable, Value.hasUnspellable]
  | .emptyObject _ => simp [Written.value, Value.isUnspellable, Value.hasUnspellableEntry]
  | .integer _ _ => simpa [Written.value, Value.isUnspellable] using isLong_integerValue hw
  | .list items =>
    simpa [Written.value, Value.isUnspellable] using items.hasUnspellable hw knots fuel
  | .object members =>
    have hvalues := members.isUnspellable hw knots fuel
    have hentries : Value.hasUnspellableEntry knots fuel
        (Value.writeMembers [] members.entries) = false := by
      refine Value.hasUnspellableEntry_eq_false.2 (Value.forall_writeMembers
        (P := fun k v => k.isUnspellable knots fuel = false ∧ v.isUnspellable knots fuel = false)
        (by simp) fun m hm k hk => ⟨?_, hvalues m hm⟩)
      rcases hk with rfl | ⟨_, hk, -⟩
      · simp [Value.isUnspellable]
      · exact hk
    simpa [Written.value, Value.isUnspellable] using hentries

theorem Json.WrittenItems.hasUnspellable (items : WrittenItems) (hitems : items.Valid)
    (knots : Knots) (fuel : Nat) : Value.hasUnspellable knots fuel items.values = false := by
  match items with
  | .last _ v _ =>
    simpa [WrittenItems.values, Value.hasUnspellable] using v.isUnspellable hitems.2.1 knots fuel
  | .more _ v _ rest =>
    rw [WrittenItems.values, Value.hasUnspellable, v.isUnspellable hitems.2.1,
      rest.hasUnspellable hitems.2.2.2, Bool.or_self]

theorem Json.WrittenMembers.isUnspellable (members : WrittenMembers) (hmembers : members.Valid)
    (knots : Knots) (fuel : Nat) :
    ∀ m ∈ members.entries, m.2.isUnspellable knots fuel = false := by
  match members with
  | .last name v _ => exact List.forall_mem_singleton.2 (v.isUnspellable hmembers.2.1 knots fuel)
  | .more name v _ rest =>
    exact List.forall_mem_cons.2 ⟨v.isUnspellable hmembers.2.1 knots fuel,
      rest.isUnspellable hmembers.2.2.2 knots fuel⟩

end

/-- Where no integer is too long to be written, neither is a version. -/
theorem Format.isLegible_of_spellable {data : Data}
    (h : data.value.isUnspellable data.knots (data.knots.length + 1) = false) :
    isLegible data = true := by
  have hget (name : String) (v : Value) (hv : data.value.get? name = some v) :
      v.isUnspellable data.knots (data.knots.length + 1) = false := by
    obtain ⟨e, he, rfl⟩ := Option.map_eq_some_iff.1 hv
    have hmem := List.mem_of_find?_eq_some he
    unfold Value.entries at hmem
    split at hmem
    · next es heq =>
      rw [heq, Value.isUnspellable] at h
      exact (Value.hasUnspellableEntry_eq_false.1 h e hmem).2
    · cases hmem
  rw [isLegible]
  split
  · next version hversion =>
    rcases Option.or_eq_some_iff.1 hversion with hversion | ⟨-, hversion⟩ <;>
      rw [hget _ _ hversion] <;> rfl
  · rfl

/-! ## loading -/

/-- A description that states its version and nothing else, on a line of its own. -/
def versionText (indentation : List Char) : WrittenText where
  before := []
  content := .object (.last ⟨'\n' :: indentation, "swagger".toList.map .raw, [], [' ']⟩
    (.string ("2.0".toList.map .raw)) ['\n'])
  after := ['\n']

/-- The bytes of that description. -/
def versionBytes (indentation : List Char) : List UInt8 :=
  (versionText indentation).text.map fun c => UInt8.ofNat c.toNat

/-- Where the description stands. -/
def versionPath : Path := ⟨"", ["kyve.json"]⟩

/-- A directory that holds the file of the description and nothing else. -/
def versionFile (content : List UInt8) : FileSystem where
  entries := [(versionPath.segments, .file content)]

/-- The data of the description. -/
def versionData : Data := ⟨.map [(.str "swagger", .str "2.0")], []⟩

theorem versionText_value (indentation : List Char) :
    (versionText indentation).content.value = versionData.value :=
  rfl

theorem parse_versionData :
    Document.parse versionData versionPath.text = .ok { swagger := "2.0" } :=
  rfl

theorem read_versionFile (content : List UInt8) :
    (versionFile content).read versionPath = .ok content := by
  have hzero : "kyve.json".contains '\x00' = false := by simp
  have hlength : ¬ FileSystem.maxPath < "kyve.json".utf8ByteSize := by decide
  have htext : FileSystem.checkText versionPath.text = .ok () := by
    show FileSystem.checkText "kyve.json" = _
    rw [FileSystem.checkText, hzero, if_neg Bool.false_ne_true, if_neg hlength]
  have hname : FileSystem.isLongName "kyve.json" = false := by decide
  have hroot : (versionFile content).get? [] = some .directory := rfl
  have hwalk : (versionFile content).walk [] versionPath.segments = .ok versionPath.segments := by
    simp [FileSystem.walk, versionPath, hroot, hname]
  have hresolve : (versionFile content).resolve versionPath = .ok versionPath.segments := by
    rw [FileSystem.resolve, htext]
    exact hwalk
  have hfile : (versionFile content).get? versionPath.segments = some (.file content) := by
    simp [FileSystem.get?, versionFile]
  have hfind : (versionFile content).find versionPath = .ok (.file content) := by
    rw [FileSystem.find, hresolve]
    simp only [bind, Except.bind, hfile]
  rw [FileSystem.read, hfind]
  rfl
/-- Is this a character of ASCII that needs no escape? -/
def isUnescaped (c : Char) : Bool :=
  decide (0x20 ≤ c.toNat ∧ c.toNat ≤ 0x7E) && c != '"' && c != '\\'

/-- Such characters may stand in a literal, and on its line. -/
theorem Json.valid_map_raw (cs : List Char) (h : cs.all isUnescaped = true) :
    (∀ p ∈ cs.map Piece.raw, p.Valid) ∧ ∀ p ∈ cs.map Piece.raw, p.Common := by
  have hspec (c : Char) (hc : c ∈ cs) :
      (0x20 ≤ c.toNat ∧ c.toNat ≤ 0x7E) ∧ c ≠ '"' ∧ c ≠ '\\' := by
    simpa [isUnescaped, and_assoc] using List.all_eq_true.1 h c hc
  refine ⟨List.forall_mem_map.2 fun c hc => ⟨(hspec c hc).1.1, (hspec c hc).2⟩,
    List.forall_mem_map.2 fun c hc => ?_⟩
  have hinline := inline_of_ascii (hspec c hc).1
  exact ⟨hinline.allowed, hinline.not_break⟩

theorem versionText_valid {indentation : List Char} (h : Blank indentation) :
    (versionText indentation).Valid := by
  have hblank : Blank ['\n'] := by simp [Blank, Json.isBlank]
  have hspace : Blank [' '] := by simp [Blank, Json.isBlank]
  have hname := Json.valid_map_raw "swagger".toList (by decide)
  have hversion := Json.valid_map_raw "2.0".toList (by decide)
  have hbefore : Blank ('\n' :: indentation) := List.forall_mem_cons.2 ⟨hblank _ (by simp), h⟩
  exact ⟨List.forall_mem_nil _, ⟨⟨hbefore, hname.1, List.forall_mem_nil _, hspace⟩, hversion.1,
    hblank⟩, hblank⟩

theorem versionText_common {indentation : List Char} (h : '\t' ∉ indentation) :
    (versionText indentation).Common := by
  have hname := Json.valid_map_raw "swagger".toList (by decide)
  have hversion := Json.valid_map_raw "2.0".toList (by decide)
  have hshort : (literal ("swagger".toList.map .raw)).length + 0 ≤ Yaml.Lexer.maxKeyLength := by
    decide
  have hdepth : 1 ≤ Yaml.Parse.maxDepth := by decide
  exact ⟨List.not_mem_nil, ⟨⟨by simpa using h, hname.2, List.forall_mem_nil _, by simp, hshort⟩,
    hversion.2, by simp⟩, by simp [versionText], hdepth⟩

/-- The file of a JSON text within the common part loads like the data of the text. -/
theorem Document.load_json {fs : FileSystem} {p : Path} {content : List UInt8}
    (hread : fs.read p = .ok content)
    (htext : Text.Utf8.decode? content = some (String.ofList t.text)) (ht : t.Valid)
    (hcommon : t.Common) (hword : t.content.isWord = false) :
    ∃ v, Json.parse? (Text.ofChars t.text) = some v ∧
      Document.load fs p = (Document.parse ⟨v, []⟩ p.text).mapError .document := by
  have hlegible : Format.isLegible ⟨t.content.value, []⟩ = true :=
    Format.isLegible_of_spellable (t.content.isUnspellable ht.content [] 1)
  refine ⟨t.content.value, t.parse?_text ht, ?_⟩
  simp only [load, hread, htext, ofText, Yaml.parse_text ht hcommon hword, hlegible]
  rfl

/-- With blanks in front of its version a description is loaded. -/
theorem Document.load_json_spaces :
    (versionFile (versionBytes [' ', ' '])).read versionPath = .ok (versionBytes [' ', ' ']) ∧
    Document.load (versionFile (versionBytes [' ', ' '])) versionPath =
      .ok { swagger := "2.0" } := by
  have hread := read_versionFile (versionBytes [' ', ' '])
  have hvalid : (versionText [' ', ' ']).Valid :=
    versionText_valid (by simp [Blank, Json.isBlank])
  have hdecode : Text.Utf8.decode? (versionBytes [' ', ' ']) =
      some (String.ofList (versionText [' ', ' ']).text) := by decide
  obtain ⟨v, hparse, hload⟩ := Document.load_json hread hdecode hvalid
    (versionText_common (by simp)) rfl
  rw [(versionText [' ', ' ']).parse?_text hvalid, versionText_value] at hparse
  cases hparse
  exact ⟨hread, hload.trans (congrArg _ parse_versionData)⟩

/-! ## tabs -/

section Tabs

variable {fs : FileSystem} {p : Path} {content : List UInt8} {bs : List Char}

/-- A text in which a tab stands first behind the opening brace is no YAML. -/
theorem Yaml.parse_tab (hbs : Blank bs) (htab : '\t' ∉ bs) (X : List Char) :
    Yaml.parse (String.ofList ('\x7b' :: (bs ++ '\t' :: X))) = .error .malformed := by
  have htokens := Token.ofText_tab hbs htab X
  simp only [List.mem_cons, List.not_mem_nil, or_false] at htokens
  rw [Yaml.parse, String.toList_ofList]
  rcases htokens with htokens | htokens <;> rw [htokens] <;> rfl

/-- No file in which a tab stands first behind the opening brace is loaded. -/
theorem Document.load_tab (X : List Char) (hread : fs.read p = .ok content)
    (htext : Text.Utf8.decode? content = some (String.ofList ('\x7b' :: (bs ++ '\t' :: X))))
    (hbs : Blank bs) (htab : '\t' ∉ bs) :
    Document.load fs p = .error (.document (.undecodable p.text)) := by
  simp only [load, hread, htext, ofText, Yaml.parse_tab hbs htab X]

end Tabs

/-- With a tab in front of its version a description is lost, although it is JSON. -/
theorem Document.load_tabs :
    (versionText ['\t']).Valid ∧
    (versionFile (versionBytes ['\t'])).read versionPath = .ok (versionBytes ['\t']) ∧
    Text.Utf8.decode? (versionBytes ['\t']) = some (String.ofList (versionText ['\t']).text) ∧
    Json.parse? (Text.ofChars (versionText ['\t']).text) = some versionData.value ∧
    Document.parse versionData versionPath.text = .ok { swagger := "2.0" } ∧
    Document.load (versionFile (versionBytes ['\t'])) versionPath =
      .error (.document (.undecodable versionPath.text)) := by
  have hvalid : (versionText ['\t']).Valid := versionText_valid (by simp [Blank, Json.isBlank])
  have hread := read_versionFile (versionBytes ['\t'])
  have hdecode : Text.Utf8.decode? (versionBytes ['\t']) =
      some (String.ofList (versionText ['\t']).text) := by decide
  have hparse := (versionText ['\t']).parse?_text hvalid
  rw [versionText_value] at hparse
  have hbrace : (versionText ['\t']).text =
      '\x7b' :: (['\n'] ++ '\t' :: (versionText ['\t']).text.drop 3) := by decide
  have hload := Document.load_tab _ hread (hdecode.trans (congrArg _ (congrArg _ hbrace)))
    (by simp [Blank, Json.isBlank]) (by simp)
  exact ⟨hvalid, hread, hdecode, hparse, parse_versionData, hload⟩

end ChainApi
