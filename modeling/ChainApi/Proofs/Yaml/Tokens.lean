import ChainApi.Proofs.Yaml.Lexing
import ChainApi.Proofs.Yaml.Parsing

/-!
# ChainApi.Proofs.Yaml.Tokens

The tokens of a whole JSON text, by recursion over what is written.

* `Lexer.reads_value`, `Lexer.reads_items`, `Lexer.reads_members` — the parts of a text;
* `Token.ofText_text` — the tokens of a text;
* `Token.ofText_tab` — a text in which a tab stands first behind the opening brace.
-/

namespace ChainApi

open Json Yaml Yaml.Cursor

namespace Yaml.Lexer

variable {s : Lexer} {ts : List Token} {cs X : List Char}

/-! ## values -/

/-- What stands between square brackets. -/
theorem reads_sequence (h : s.Blockless) (hlevel : 0 ≤ s.level)
    (hstands : s.Stands ('[' :: (cs ++ ']' :: X)))
    (hparts : ∀ t : Lexer, t.Blockless → 0 < t.level → t.Stands (cs ++ ']' :: X) →
      ∃ u, t.Reads ts 0 u ∧ u.Stands (']' :: X)) :
    ∃ u, s.Reads (.openSequence :: (ts ++ [.closeSequence])) 0 u ∧ u.Stands X := by
  obtain ⟨bs, hf⟩ := hstands.faces h (by decide) (by decide)
  obtain ⟨t, hopen, ht, -⟩ := hf.reads_open (by decide) (token_openSequence hf.rest_arrived)
  have htlevel := hopen.level
  obtain ⟨u, hread, hu⟩ := hparts t hopen.blockless (by omega) ht
  obtain ⟨bs', hf'⟩ := hu.faces hread.blockless (by decide) (by decide)
  obtain ⟨v, hclose, hv⟩ := hf'.reads_close (by decide) (token_closeSequence hf'.rest_arrived)
  exact ⟨v, hopen.trans (hread.trans hclose), hv⟩

/-- What stands between braces.  A key may start after the first of them. -/
theorem reads_mapping (h : s.Blockless) (hlevel : 0 ≤ s.level)
    (hstands : s.Stands ('\x7b' :: (cs ++ '\x7d' :: X)))
    (hparts : ∀ t : Lexer, t.Blockless → 0 < t.level → t.keyAllowed → t.Stands (cs ++ '\x7d' :: X) →
      ∃ u, t.Reads ts 0 u ∧ u.Stands ('\x7d' :: X)) :
    ∃ u, s.Reads (.openMapping :: (ts ++ [.closeMapping])) 0 u ∧ u.Stands X := by
  obtain ⟨bs, hf⟩ := hstands.faces h (by decide) (by decide)
  obtain ⟨t, hopen, ht, hallowed⟩ :=
    hf.reads_open (by decide) (token_openMapping hf.rest_arrived)
  have htlevel := hopen.level
  obtain ⟨u, hread, hu⟩ := hparts t hopen.blockless (by omega) hallowed ht
  obtain ⟨bs', hf'⟩ := hu.faces hread.blockless (by decide) (by decide)
  obtain ⟨v, hclose, hv⟩ := hf'.reads_close (by decide) (token_closeMapping hf'.rest_arrived)
  exact ⟨v, hopen.trans (hread.trans hclose), hv⟩

mutual

/-- A value, with the blanks after it.  A word is followed by a mark between values. -/
theorem reads_value (w : Written) (hw : w.Valid) (hcommon : w.Common) (s : Lexer)
    (h : s.Blockless) (hlevel : 0 ≤ s.level) (bs X : List Char) (hbs : Blank bs)
    (htab : '\t' ∉ bs)
    (hword : w.isWord → 0 < s.level ∧ ∃ y Y, X = y :: Y ∧ isFlowMark y)
    (hstands : s.Stands (w.text ++ (bs ++ X))) :
    ∃ t, s.Reads w.tokens 0 t ∧ t.Stands X := by
  match w with
  | .null | .bool _ | .integer _ _ =>
    obtain ⟨hlevel, y, Y, rfl, hy⟩ := hword rfl
    exact reads_word h hlevel hw rfl hbs htab hy hstands
  | .string pieces =>
    obtain ⟨t, hread, ht⟩ := reads_literal h hw hcommon hstands
    exact ⟨t, hread, ht.of_blank hbs htab⟩
  | .emptyList blank =>
    have hstands : s.Stands ('[' :: (blank ++ ']' :: (bs ++ X))) := by
      simpa [Written.text] using hstands
    obtain ⟨t, hread, ht⟩ := reads_sequence h hlevel hstands fun t ht _ hstands =>
      ⟨t, .refl ht, hstands.of_blank hw hcommon⟩
    exact ⟨t, hread, ht.of_blank hbs htab⟩
  | .list items =>
    have hstands : s.Stands ('[' :: (items.text ++ ']' :: (bs ++ X))) := by
      simpa [Written.text] using hstands
    obtain ⟨t, hread, ht⟩ := reads_sequence h hlevel hstands fun t ht htlevel =>
      reads_items items hw hcommon t ht htlevel (bs ++ X)
    exact ⟨t, hread, ht.of_blank hbs htab⟩
  | .emptyObject blank =>
    have hstands : s.Stands ('\x7b' :: (blank ++ '\x7d' :: (bs ++ X))) := by
      simpa [Written.text] using hstands
    obtain ⟨t, hread, ht⟩ := reads_mapping h hlevel hstands fun t ht _ _ hstands =>
      ⟨t, .refl ht, hstands.of_blank hw hcommon⟩
    exact ⟨t, hread, ht.of_blank hbs htab⟩
  | .object members =>
    have hstands : s.Stands ('\x7b' :: (members.text ++ '\x7d' :: (bs ++ X))) := by
      simpa [Written.text] using hstands
    obtain ⟨t, hread, ht⟩ := reads_mapping h hlevel hstands fun t ht htlevel hallowed =>
      reads_members members hw hcommon t ht htlevel hallowed (bs ++ X)
    exact ⟨t, hread, ht.of_blank hbs htab⟩

/-- Items up to the closing bracket. -/
theorem reads_items (items : WrittenItems) (hitems : items.Valid) (hcommon : items.Common)
    (s : Lexer) (h : s.Blockless) (hlevel : 0 < s.level) (X : List Char)
    (hstands : s.Stands (items.text ++ ']' :: X)) :
    ∃ t, s.Reads items.tokens 0 t ∧ t.Stands (']' :: X) := by
  match items with
  | .last before v after =>
    have hstands : s.Stands (before ++ (v.text ++ (after ++ ']' :: X))) := by
      simpa [WrittenItems.text] using hstands
    exact reads_value v hitems.2.1 hcommon.2.1 s h (Int.le_of_lt hlevel) after (']' :: X)
      hitems.2.2 hcommon.2.2 (fun _ => ⟨hlevel, ']', X, rfl, by decide⟩)
      (hstands.of_blank hitems.1 hcommon.1)
  | .more before v after rest =>
    have hstands : s.Stands (before ++ (v.text ++ (after ++ ',' :: (rest.text ++ ']' :: X)))) := by
      simpa [WrittenItems.text] using hstands
    obtain ⟨t, hread, ht⟩ := reads_value v hitems.2.1 hcommon.2.1 s h (Int.le_of_lt hlevel) after
      _ hitems.2.2.1 hcommon.2.2.1 (fun _ => ⟨hlevel, ',', _, rfl, by decide⟩)
      (hstands.of_blank hitems.1 hcommon.1)
    obtain ⟨u, hcomma, hu, -⟩ := reads_comma hread.blockless ht
    have htlevel := (hread.trans hcomma).level
    obtain ⟨v, hmore, hv⟩ := reads_items rest hitems.2.2.2 hcommon.2.2.2 u hcomma.blockless
      (by omega) X hu
    exact ⟨v, hread.trans (hcomma.trans hmore), hv⟩

/-- Members up to the closing brace. -/
theorem reads_members (members : WrittenMembers) (hmembers : members.Valid)
    (hcommon : members.Common) (s : Lexer) (h : s.Blockless) (hlevel : 0 < s.level)
    (hallowed : s.keyAllowed) (X : List Char) (hstands : s.Stands (members.text ++ '\x7d' :: X)) :
    ∃ t, s.Reads members.tokens 0 t ∧ t.Stands ('\x7d' :: X) := by
  match members with
  | .last name v after =>
    have hstands : s.Stands (name.text ++ (v.text ++ (after ++ '\x7d' :: X))) := by
      simpa [WrittenMembers.text] using hstands
    obtain ⟨t, hname, ht⟩ := reads_name h hlevel hallowed hmembers.1 hcommon.1 hstands
    have htlevel := hname.level
    obtain ⟨u, hread, hu⟩ := reads_value v hmembers.2.1 hcommon.2.1 t hname.blockless (by omega)
      after ('\x7d' :: X) hmembers.2.2 hcommon.2.2
      (fun _ => ⟨by omega, '\x7d', X, rfl, by decide⟩) ht
    exact ⟨u, hname.trans hread, hu⟩
  | .more name v after rest =>
    have hstands : s.Stands
        (name.text ++ (v.text ++ (after ++ ',' :: (rest.text ++ '\x7d' :: X)))) := by
      simpa [WrittenMembers.text] using hstands
    obtain ⟨t, hname, ht⟩ := reads_name h hlevel hallowed hmembers.1 hcommon.1 hstands
    have htlevel := hname.level
    obtain ⟨u, hread, hu⟩ := reads_value v hmembers.2.1 hcommon.2.1 t hname.blockless (by omega)
      after _ hmembers.2.2.1 hcommon.2.2.1 (fun _ => ⟨by omega, ',', _, rfl, by decide⟩) ht
    obtain ⟨u', hcomma, hu', hallowed'⟩ := reads_comma hread.blockless hu
    have hulevel := (hread.trans hcomma).level
    obtain ⟨u'', hmore, hu''⟩ := reads_members rest hmembers.2.2.2 hcommon.2.2.2 u'
      hcomma.blockless (by omega) hallowed' X hu'
    exact ⟨u'', hname.trans (hread.trans (hcomma.trans hmore)), hu''⟩

end

/-! ## texts -/

/-- At the end of the text the tokens end as well. -/
theorem run_end (h : s.Blockless) (hstands : s.Stands []) {fuel n : Nat} :
    run (fuel + 1) n s = (Token.streamEnd :: s.tokens).reverse := by
  obtain ⟨bs, hbs, hrest⟩ := hstands
  have harrived := (h.passed bs).pruned
  obtain ⟨cs, -, hforget⟩ := forgetKey_eq harrived
  have hnext := next_eq h hbs (X := []) (by simp) hrest
  simp only [List.head?_nil, endOfText, unwind_eq harrived, hforget] at hnext
  rw [run, hnext]
  rfl

end Yaml.Lexer

/-- What is written without a word starts with a mark. -/
theorem Json.Written.exists_mark {w : Written} (h : w.isWord = false) :
    ∃ x xs, w.text = x :: xs ∧ x ≠ '\uFEFF' ∧ x ≠ '\r' := by
  cases w with
  | null | bool _ | integer _ _ => cases h
  | string | emptyList | list | emptyObject | object =>
    exact ⟨_, _, rfl, by decide, by decide⟩

/-- A text of characters that may occur is read from its start. -/
theorem Yaml.Token.exists_start {cs : List Char}
    (hall : (Text.unifyNewlines cs).all isAllowed = true)
    (hmark : (Text.unifyNewlines cs).head? ≠ some '\uFEFF') :
    ∃ s : Lexer, s.Blockless ∧ s.level = 0 ∧ s.tokens = [] ∧ s.Stands cs ∧
      Token.ofText (Text.unifyNewlines cs) = Lexer.run s.fuel 0 s := by
  have hat : ({ rest := Text.unifyNewlines cs } : Cursor).at? '\uFEFF' = false := by
    rw [at?, peek, beq_eq_false_iff_ne]
    exact hmark
  refine ⟨{ cursor := { rest := Text.unifyNewlines cs },
            fuel := (Text.unifyNewlines cs).length + 2 },
    ⟨rfl, rfl, List.forall_mem_nil _, Nat.lt_add_of_pos_right (by decide)⟩, rfl, rfl,
    .of_rest rfl, ?_⟩
  rw [ofText, if_pos hall]
  simp only [hat]
  rfl

/-- The tokens of a JSON text. -/
theorem Yaml.Token.ofText_text {t : WrittenText} (ht : t.Valid) (hcommon : t.Common)
    (hword : t.content.isWord = false) :
    Token.ofText (Text.unifyNewlines t.text) = t.content.tokens ++ [.streamEnd] := by
  have hall : (Text.unifyNewlines t.text).all isAllowed = true :=
    List.all_eq_true.2 fun x hx => (Text.mem_unifyNewlines hx).elim
      (WrittenText.isAllowed_of_mem ht hcommon x) fun heq => heq ▸ rfl
  have hmark : (Text.unifyNewlines t.text).head? ≠ some '\uFEFF' := by
    obtain ⟨bs, hbs, heq⟩ :=
      Text.unifyNewlines_blank ht.before hcommon.before (t.content.text ++ t.after)
    obtain ⟨x, xs, htext, hx, hreturn⟩ := Written.exists_mark hword
    rw [WrittenText.text, heq, htext, List.cons_append, Text.unifyNewlines_cons hreturn]
    cases bs with
    | nil => simpa using hx
    | cons y bs => rcases hbs y List.mem_cons_self with rfl | rfl <;> simp
  obtain ⟨s, hs, hlevel, htokens, hstands, hstart⟩ :=
    exists_start hall hmark
  have hcontent : s.Stands (t.content.text ++ (t.after ++ [])) := by
    rw [List.append_nil]
    exact hstands.of_blank ht.before hcommon.before
  obtain ⟨u, hread, hu⟩ := Lexer.reads_value t.content ht.content hcommon.content s hs
    (Int.le_of_eq hlevel.symm) t.after [] ht.after hcommon.after
    (fun h => absurd h (by rw [hword]; exact Bool.false_ne_true)) hcontent
  obtain ⟨fuel, n, hfuel, hrun⟩ := Lexer.run_of_steps hread.steps (n := 0) hs.length_lt
  obtain ⟨fuel, rfl⟩ : ∃ f, fuel = f + 1 := Nat.exists_eq_add_one.2 (by omega)
  rw [hstart, hrun, Lexer.run_end hread.blockless hu, hread.tokens, htokens]
  simp

/-! ## tabs -/

theorem Yaml.Lexer.token_tab {s : Lexer} {X : List Char} (h : s.cursor.rest = '\t' :: X) :
    s.token '\t' = .error .malformed := by
  simp [token, marker_eq_false h, startsPlain, isBlank]

/-- A text in which a tab stands first behind the opening brace cannot be read on there. -/
theorem Yaml.Token.ofText_tab {bs : List Char} (hbs : Blank bs) (htab : '\t' ∉ bs)
    (X : List Char) :
    Token.ofText (Text.unifyNewlines ('\x7b' :: (bs ++ '\t' :: X))) ∈
      [[.invalid .malformed], [.openMapping, .invalid .malformed]] := by
  by_cases hall : (Text.unifyNewlines ('\x7b' :: (bs ++ '\t' :: X))).all isAllowed = true
  · obtain ⟨s, hs, -, htokens, hstands, hstart⟩ := exists_start hall (by
      rw [Text.unifyNewlines_cons (by decide)]
      simp)
    obtain ⟨cs, hf⟩ := hstands.faces hs (by decide) (by decide)
    obtain ⟨t, hopen, ht, -⟩ :=
      hf.reads_open (by decide) (Lexer.token_openMapping hf.rest_arrived)
    obtain ⟨cs', hf'⟩ := (ht.of_blank hbs htab).faces hopen.blockless (by decide) (by decide)
    have hnext : t.next = .error .malformed := by
      rw [hf'.next_eq]
      exact Lexer.token_tab hf'.rest_arrived
    obtain ⟨fuel, n, hfuel, hrun⟩ := Lexer.run_of_steps hopen.steps (n := 0) hs.length_lt
    obtain ⟨fuel, rfl⟩ : ∃ f, fuel = f + 1 := Nat.exists_eq_add_one.2 (by omega)
    have hcount : t.count = 1 := by rw [t.count_eq, hopen.tokens, htokens]; rfl
    rw [hstart, hrun, Lexer.run, hnext]
    simp only [Lexer.cut, hcount, hopen.tokens, htokens]
    cases n <;> simp
  · rw [ofText, if_neg hall]
    exact List.mem_cons_self

end ChainApi
