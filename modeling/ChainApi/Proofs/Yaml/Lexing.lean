import ChainApi.Proofs.Yaml.Words
import Mathlib.Logic.Relation

/-!
# ChainApi.Proofs.Yaml.Lexing

The lexer on a JSON text, token by token.  No block is ever open there, so indentation does
not count, and all that has to be followed is where a key may have started: the start of a
name is saved as such a place, and its colon finds it.

* `Lexer.Blockless` — no block is open, and no key is asked for;
* `Lexer.Step`, `Lexer.Reads` — steps of the lexer, and the tokens they add;
* `Lexer.Stands`, `Lexer.Faces` — the text that is still to be read, up to its blanks;
* `Lexer.reads_word`, `Lexer.reads_literal`, `Lexer.reads_name` — the tokens of words, of
  strings, and of names with their colons.
-/

namespace ChainApi

open Json Yaml Yaml.Cursor

namespace Yaml.Lexer

variable {s t u r : Lexer} {ts us : List Token} {d e : Int} {x : Char} {bs cs X : List Char}

/-! ## no block is open -/

/-- Are these places where keys may have started, but need not? -/
def Optional (cs : List (Int × Candidate)) : Prop := ∀ k ∈ cs, k.2.required = false

theorem Optional.filter {ks : List (Int × Candidate)} (h : Optional ks)
    (p : Int × Candidate → Bool) : Optional (ks.filter p) :=
  fun k hk => h k (List.mem_filter.1 hk).1

/-- No block is open, and no key is asked for. -/
structure Blockless (s : Lexer) : Prop where
  indent : s.indent = -1
  outer : s.outer = []
  optional : Optional s.candidates
  length_lt : s.cursor.rest.length < s.fuel

/-- Forget the keys for which it is too late. -/
def pruned (s : Lexer) : Lexer :=
  { s with candidates := s.candidates.filter fun k => !isStale s.cursor k.2 }

theorem Blockless.pruned (h : s.Blockless) : s.pruned.Blockless :=
  ⟨h.indent, h.outer, h.optional.filter _, h.length_lt⟩

theorem dropStale_eq (h : s.Blockless) : s.dropStale = .ok s.pruned := by
  refine if_neg ?_
  simp only [List.any_eq_true, not_exists, not_and]
  intro k hk
  rw [h.optional k hk, Bool.and_false]
  exact Bool.false_ne_true

/-- Indentation closes nothing. -/
theorem unwind_eq (h : s.Blockless) (column : Int) : s.unwind column = s := by
  rw [unwind]
  split
  · rfl
  · rw [h.indent, h.outer, closeBlocks, ← h.indent, ← h.outer]

theorem forgetKey_eq (h : s.Blockless) :
    ∃ cs, Optional cs ∧ s.forgetKey = .ok { s with candidates := cs } := by
  rw [forgetKey]
  split
  · next k hk =>
    obtain ⟨l₁, l₂, hmem, -⟩ := List.lookup_eq_some_iff.1 hk
    have hoptional := h.optional (s.level, k) (by rw [hmem]; simp)
    rw [if_neg (by rw [hoptional]; exact Bool.false_ne_true)]
    exact ⟨_, h.optional.filter _, rfl⟩
  · exact ⟨s.candidates, h.optional, rfl⟩

/-- The place where a key that starts here is remembered. -/
def here (s : Lexer) : Candidate :=
  ⟨s.count, false, s.cursor.index, s.cursor.line, s.cursor.column⟩

theorem saveKey_of_allowed (h : s.Blockless) (hallowed : s.keyAllowed) :
    ∃ cs, Optional cs ∧ s.saveKey = .ok { s with candidates := (s.level, s.here) :: cs } := by
  obtain ⟨cs, hcs, hforget⟩ := forgetKey_eq h
  have hrequired : (!s.inFlow && s.indent == (s.cursor.column : Int)) = false := by
    rw [h.indent, Bool.and_eq_false_iff, beq_eq_false_iff_ne]
    exact .inr (by omega)
  refine ⟨cs.filter (·.1 != s.level), hcs.filter _, ?_⟩
  rw [saveKey, if_pos hallowed, hforget, hrequired]
  rfl

theorem saveKey_eq (h : s.Blockless) :
    ∃ cs, Optional cs ∧ s.saveKey = .ok { s with candidates := cs } := by
  by_cases hallowed : s.keyAllowed
  · obtain ⟨cs, hcs, hsave⟩ := saveKey_of_allowed h hallowed
    exact ⟨_, List.forall_mem_cons.2 ⟨rfl, hcs⟩, hsave⟩
  · exact ⟨s.candidates, h.optional, if_neg hallowed⟩

/-! ## blanks -/

/-- The lexer after it has moved over some blanks. -/
def passed (s : Lexer) (bs : List Char) : Lexer :=
  { s with
    cursor := s.cursor.advance bs.length
    keyAllowed := s.keyAllowed || (!s.inFlow && bs.contains '\n') }

/-- Does a character start a token, wherever it stands? -/
def Starts (x : Char) : Prop := x ≠ ' ' ∧ x ≠ '#' ∧ isBreak x = false

instance : DecidablePred Starts := fun _ => inferInstanceAs (Decidable (_ ∧ _))

@[simp] theorem passed_nil : s.passed [] = s := by
  simp [passed, advance]

theorem passed_space (bs : List Char) :
    s.passed (' ' :: bs) = (s.moveTo s.cursor.next).passed bs := by
  simp [passed, moveTo, inFlow, advance]

/-- A line break in block style allows for a key. -/
theorem passed_newline (bs : List Char) : s.passed ('\n' :: bs) =
    ((s.moveTo s.cursor.next).allowKey (s.keyAllowed || !s.inFlow)).passed bs := by
  cases hallowed : s.keyAllowed <;> cases hflow : s.inFlow <;>
    simp_all [passed, moveTo, allowKey, inFlow, advance]

theorem skipToToken_of_starts {fuel : Nat} (h : ∀ x ∈ s.cursor.rest.head?, Starts x) :
    skipToToken (fuel + 1) s = s := by
  have hspaces : s.cursor.skipSpaces = s.cursor := skipSpaces_of_ne fun x hx => (h x hx).1
  rw [skipToToken, hspaces]
  cases hrest : s.cursor.rest with
  | nil => simp [at?, peek, lineBreak?, hrest, moveTo]
  | cons x X =>
    have hx : Starts x := h x (by rw [hrest]; rfl)
    simp [at?_of_rest hrest, hx.2.1, lineBreak?_eq_none hrest hx.2.2, moveTo]

theorem skipToToken_spaced {fuel : Nat} (hbs : Spaced bs) (hX : ∀ x ∈ X.head?, Starts x)
    (h : s.cursor.rest = bs ++ X) (hfuel : bs.length < fuel) :
    skipToToken fuel s = s.passed bs := by
  obtain ⟨fuel, rfl⟩ : ∃ f, fuel = f + 1 := Nat.exists_eq_add_one.2 (by omega)
  induction bs generalizing s fuel with
  | nil => rw [skipToToken_of_starts (h ▸ hX), passed_nil]
  | cons x bs ih =>
    have hnext : s.cursor.next.rest = bs ++ X := by rw [rest_next, h]; rfl
    have hbs' : Spaced bs := fun y hy => hbs y (List.mem_cons_of_mem _ hy)
    rw [List.length_cons] at hfuel
    rcases hbs x List.mem_cons_self with rfl | rfl
    · have hih := ih (s := s.moveTo s.cursor.next) hbs' hnext fuel (by omega)
      rw [skipToToken] at hih ⊢
      rw [skipSpaces_space h, passed_space]
      exact hih
    · have hspaces : s.cursor.skipSpaces = s.cursor :=
        skipSpaces_of_ne (by rw [h]; rintro x ⟨rfl⟩; decide)
      obtain ⟨fuel, rfl⟩ : ∃ f, fuel = f + 1 := Nat.exists_eq_add_one.2 (by omega)
      rw [skipToToken, hspaces]
      simp only [at?_of_rest h]
      rw [if_neg (by decide), lineBreak?_newline h, passed_newline]
      exact ih (s := (s.moveTo s.cursor.next).allowKey (s.keyAllowed || !s.inFlow)) hbs' hnext
        fuel (by omega)

theorem Blockless.passed (h : s.Blockless) (bs : List Char) : (s.passed bs).Blockless :=
  ⟨h.indent, h.outer, h.optional, by
    have := h.length_lt
    simp only [Lexer.passed, rest_advance, List.length_drop]
    omega⟩

/-- The next token is read where the blanks end. -/
theorem next_eq (h : s.Blockless) (hbs : Spaced bs) (hX : ∀ x ∈ X.head?, Starts x)
    (hrest : s.cursor.rest = bs ++ X) :
    s.next = match X.head? with
      | none => (s.passed bs).pruned.endOfText
      | some x => (s.passed bs).pruned.token x := by
  have hlen := h.length_lt
  rw [hrest, List.length_append] at hlen
  have hpruned := (h.passed bs).pruned
  have hpeek : (s.passed bs).pruned.cursor.peek = X.head? := by
    rw [peek, ← rest_advance_of_append hrest]
    rfl
  rw [next, skipToToken_spaced hbs hX hrest (by omega), dropStale_eq (h.passed bs)]
  show (match ((s.passed bs).pruned.unwind _).cursor.peek with | none => _ | some x => _) = _
  rw [unwind_eq hpruned, hpeek]

/-! ## steps -/

/-- One step of the lexer, which is not the last one.  The text gets shorter. -/
def Step (s t : Lexer) : Prop :=
  ∃ r, s.next = .ok r ∧ r.tokens.head? ≠ some .streamEnd ∧ r.dropStale = .ok t ∧
    t.cursor.rest.length < s.cursor.rest.length

/-- Steps add tokens, and change the level of brackets. -/
structure Reads (s : Lexer) (ts : List Token) (d : Int) (t : Lexer) : Prop where
  steps : Relation.ReflTransGen Step s t
  tokens : t.tokens = ts.reverse ++ s.tokens
  level : t.level = s.level + d
  blockless : t.Blockless

theorem Reads.refl (h : s.Blockless) : s.Reads [] 0 s := ⟨.refl, rfl, by simp, h⟩

theorem Reads.trans (h : s.Reads ts d t) (h' : t.Reads us e u) :
    s.Reads (ts ++ us) (d + e) u where
  steps := h.steps.trans h'.steps
  tokens := by rw [h'.tokens, h.tokens, List.reverse_append, List.append_assoc]
  level := by rw [h'.level, h.level, Int.add_assoc]
  blockless := h'.blockless

/-- The lexer goes on where its steps end. -/
theorem run_of_steps (h : Relation.ReflTransGen Step s t) {fuel n : Nat}
    (hfuel : s.cursor.rest.length < fuel) :
    ∃ fuel' n', t.cursor.rest.length < fuel' ∧ run fuel n s = run fuel' n' t := by
  induction h with
  | refl => exact ⟨fuel, n, hfuel, rfl⟩
  | @tail t u _ hstep ih =>
    obtain ⟨fuel', n', hfuel', hrun⟩ := ih
    obtain ⟨r, hnext, hhead, hdrop, hlen⟩ := hstep
    obtain ⟨fuel', rfl⟩ : ∃ f, fuel' = f + 1 := Nat.exists_eq_add_one.2 (by omega)
    refine ⟨fuel', u.settled, by omega, hrun.trans ?_⟩
    rw [run, hnext]
    simp only [hdrop]
    split
    · next heq => rw [heq] at hhead; exact absurd rfl hhead
    · next heq _ => cases heq
    · next heq _ => cases heq; rfl

/-- The lexer stands in front of a text, of which it may have moved over no more than some
of the blanks. -/
def Stands (s : Lexer) (X : List Char) : Prop :=
  ∃ bs, Spaced bs ∧ s.cursor.rest = bs ++ Text.unifyNewlines X

/-- Blanks may be left out. -/
theorem Stands.of_blank (h : s.Stands (bs ++ X)) (hbs : Blank bs) (htab : '\t' ∉ bs) :
    s.Stands X := by
  obtain ⟨cs, hcs, hrest⟩ := h
  obtain ⟨bs', hbs', heq⟩ := Text.unifyNewlines_blank hbs htab X
  refine ⟨cs ++ bs', fun x hx => ?_, by rw [hrest, heq, List.append_assoc]⟩
  exact (List.mem_append.1 hx).elim (hcs x) (hbs' x)

/-! ## tokens -/

/-- Nothing but blanks stands in front of a character that starts a token. -/
structure Faces (s : Lexer) (bs : List Char) (x : Char) (X : List Char) : Prop where
  blockless : s.Blockless
  spaced : Spaced bs
  starts : Starts x
  rest : s.cursor.rest = bs ++ x :: X

/-- The lexer where the blanks end. -/
def arrived (s : Lexer) (bs : List Char) : Lexer := (s.passed bs).pruned

theorem Stands.faces (hstands : s.Stands (x :: X)) (h : s.Blockless) (hx : Starts x)
    (hreturn : x ≠ '\r') : ∃ bs, s.Faces bs x (Text.unifyNewlines X) := by
  obtain ⟨bs, hbs, hrest⟩ := hstands
  exact ⟨bs, h, hbs, hx, by rw [hrest, Text.unifyNewlines_cons hreturn]⟩

theorem Stands.of_rest (h : s.cursor.rest = Text.unifyNewlines X) : s.Stands X :=
  ⟨[], List.forall_mem_nil _, h⟩

variable {k : Token}

theorem Faces.blockless_arrived (h : s.Faces bs x X) : (s.arrived bs).Blockless :=
  (h.blockless.passed bs).pruned

theorem Faces.rest_arrived (h : s.Faces bs x X) : (s.arrived bs).cursor.rest = x :: X :=
  rest_advance_of_append h.rest

theorem Faces.rest_next (h : s.Faces bs x X) : (s.arrived bs).cursor.next.rest = X := by
  rw [Cursor.rest_next, h.rest_arrived]
  rfl

theorem Faces.next_eq (h : s.Faces bs x X) : s.next = (s.arrived bs).token x :=
  Lexer.next_eq h.blockless h.spaced (X := x :: X) (by rintro y ⟨rfl⟩; exact h.starts) h.rest

/-- A token is read, and nothing but what is known of keys is changed after that. -/
theorem Faces.step (h : s.Faces bs x X) (htoken : (s.arrived bs).token x = .ok r)
    (hsame : r.indent = s.indent ∧ r.outer = s.outer ∧ r.fuel = s.fuel)
    (hoptional : Optional r.candidates) (hk : r.tokens.head? ≠ some .streamEnd)
    (hlen : r.cursor.rest.length ≤ X.length) : Step s r.pruned ∧ r.pruned.Blockless := by
  have hshorter : r.cursor.rest.length < s.cursor.rest.length := by
    rw [h.rest, List.length_append, List.length_cons]
    exact Nat.lt_add_left _ (Nat.lt_succ_of_le hlen)
  have hr : r.Blockless := by
    refine ⟨hsame.1.trans h.blockless.indent, hsame.2.1.trans h.blockless.outer, hoptional, ?_⟩
    rw [hsame.2.2]
    exact Nat.lt_trans hshorter h.blockless.length_lt
  exact ⟨⟨r, h.next_eq.trans htoken, hk, dropStale_eq hr, hshorter⟩, hr.pruned⟩

theorem Faces.reads (h : s.Faces bs x X) (htoken : (s.arrived bs).token x = .ok r)
    (hsame : r.indent = s.indent ∧ r.outer = s.outer ∧ r.fuel = s.fuel)
    (hoptional : Optional r.candidates) (htokens : r.tokens = k :: s.tokens)
    (hk : k ≠ .streamEnd) (hlevel : r.level = s.level + d)
    (hlen : r.cursor.rest.length ≤ X.length) : s.Reads [k] d r.pruned := by
  have hstep := h.step htoken hsame hoptional (by rw [htokens]; simpa using hk) hlen
  exact ⟨.single hstep.1, htokens, hlevel, hstep.2⟩

/-! ## brackets and commas -/

theorem token_openSequence (h : s.cursor.rest = '[' :: X) :
    s.token '[' = s.openBracket .openSequence := by
  simp [token, marker_eq_false h]

theorem token_openMapping (h : s.cursor.rest = '\x7b' :: X) :
    s.token '\x7b' = s.openBracket .openMapping := by
  simp [token, marker_eq_false h]

theorem token_closeSequence (h : s.cursor.rest = ']' :: X) :
    s.token ']' = s.closeBracket .closeSequence := by
  simp [token, marker_eq_false h]

theorem token_closeMapping (h : s.cursor.rest = '\x7d' :: X) :
    s.token '\x7d' = s.closeBracket .closeMapping := by
  simp [token, marker_eq_false h]

theorem token_comma (h : s.cursor.rest = ',' :: X) : s.token ',' = s.comma := by
  simp [token, marker_eq_false h]

/-- An opening bracket, after which a key may start. -/
theorem Faces.reads_open (h : s.Faces bs x (Text.unifyNewlines X)) (hk : k ≠ .streamEnd)
    (htoken : (s.arrived bs).token x = (s.arrived bs).openBracket k) :
    ∃ t, s.Reads [k] 1 t ∧ t.Stands X ∧ t.keyAllowed := by
  obtain ⟨cs, hcs, hsave⟩ := saveKey_eq h.blockless_arrived
  rw [openBracket, hsave] at htoken
  exact ⟨_, h.reads htoken ⟨rfl, rfl, rfl⟩ hcs rfl hk rfl
    (Nat.le_of_eq (congrArg List.length h.rest_next)), .of_rest h.rest_next, rfl⟩

/-- A closing bracket. -/
theorem Faces.reads_close (h : s.Faces bs x (Text.unifyNewlines X)) (hk : k ≠ .streamEnd)
    (htoken : (s.arrived bs).token x = (s.arrived bs).closeBracket k) :
    ∃ t, s.Reads [k] (-1) t ∧ t.Stands X := by
  obtain ⟨cs, hcs, hforget⟩ := forgetKey_eq h.blockless_arrived
  rw [closeBracket, hforget] at htoken
  exact ⟨_, h.reads htoken ⟨rfl, rfl, rfl⟩ hcs rfl hk rfl
    (Nat.le_of_eq (congrArg List.length h.rest_next)), .of_rest h.rest_next⟩

/-- A comma, after which a key may start. -/
theorem reads_comma (h : s.Blockless) (hstands : s.Stands (',' :: X)) :
    ∃ t, s.Reads [.comma] 0 t ∧ t.Stands X ∧ t.keyAllowed := by
  obtain ⟨bs, hf⟩ := hstands.faces h (by decide) (by decide)
  have hp := hf.blockless_arrived
  have hallowed : ((s.arrived bs).allowKey true).Blockless :=
    ⟨hp.indent, hp.outer, hp.optional, hp.length_lt⟩
  obtain ⟨cs, hcs, hforget⟩ := forgetKey_eq hallowed
  have htoken := token_comma hf.rest_arrived
  rw [comma, hforget] at htoken
  exact ⟨_, hf.reads htoken ⟨rfl, rfl, rfl⟩ hcs rfl (by decide) (Int.add_zero _).symm
    (Nat.le_of_eq (congrArg List.length hf.rest_next)), .of_rest hf.rest_next, rfl⟩

/-! ## scalars -/

theorem token_quote (h : s.cursor.rest = '"' :: X) :
    s.token '"' = s.keyable (fun c => do
      let (text, c) ← c.quoted true s.fuel
      .ok (.scalar text false, c)) := by
  simp [token, marker_eq_false h]

/-- A character that is no mark starts a plain scalar. -/
theorem token_plain (h : s.cursor.rest = x :: X) (hmark : isIndicator x = false)
    (hdot : x ≠ '.') (hx : isBlank x = false ∧ isBreak x = false) : s.token x = s.plainScalar := by
  have hne : ∀ y ∈ "-?:,[]\x7b\x7d#&*!|>'\"%@\x60".toList, x ≠ y := by
    rintro y hy rfl
    rw [isIndicator, List.contains_iff_mem.2 hy] at hmark
    cases hmark
  have hstarts : s.startsPlain x = true := by
    simp [startsPlain, hx.1, hx.2, hmark]
  simp [token, marker_eq_false h (hne '-' (by decide)), marker_eq_false h hdot,
    hne '%' (by decide), hne '[' (by decide), hne ']' (by decide), hne '\x7b' (by decide),
    hne '\x7d' (by decide), hne ',' (by decide), hne '-' (by decide), hne '?' (by decide),
    hne ':' (by decide), hne '*' (by decide), hne '&' (by decide), hne '!' (by decide),
    hne '|' (by decide), hne '>' (by decide), hne '\'' (by decide), hne '"' (by decide), hstarts]

/-- A sign in front of a digit starts a plain scalar. -/
theorem token_sign {y : Char} (h : s.cursor.rest = '-' :: y :: X) (hy : y.isDigit) :
    s.token '-' = s.plainScalar := by
  have hmarker : s.cursor.marker '-' = false := by
    have : y ≠ '-' := by rintro rfl; cases hy
    simp [marker, h, this]
  have halone : endsWord s.cursor.peekSecond = false := by
    have hne (z : Char) (hz : z.isDigit = false) : y ≠ z := by rintro rfl; rw [hy] at hz; cases hz
    simp [peekSecond, h, endsWord, isBlank, isBreak, hne ' ' (by decide), hne '\t' (by decide),
      hne '\n' (by decide), hne '\x85' (by decide), hne '\u2028' (by decide),
      hne '\u2029' (by decide)]
  simp [token, hmarker, halone, startsPlain, marker_eq_false h]

/-- The first character of a word starts a plain scalar. -/
theorem exists_token_word {w : Written} (hw : w.Valid) (hword : w.isWord) :
    ∃ x xs, w.text = x :: xs ∧ Starts x ∧ x ≠ '\r' ∧
      ∀ (s : Lexer) (X : List Char), s.cursor.rest = w.text ++ X → s.token x = s.plainScalar := by
  have hletter (x : Char) (xs : List Char) (hx : isIndicator x = false ∧ x ≠ '.' ∧
      isBlank x = false ∧ isBreak x = false) (s : Lexer) (X : List Char)
      (h : s.cursor.rest = (x :: xs) ++ X) : s.token x = s.plainScalar :=
    token_plain h hx.1 hx.2.1 hx.2.2
  match w with
  | .null => exact ⟨'n', _, rfl, by decide, by decide, hletter _ _ (by decide)⟩
  | .bool true => exact ⟨'t', _, rfl, by decide, by decide, hletter _ _ (by decide)⟩
  | .bool false => exact ⟨'f', _, rfl, by decide, by decide, hletter _ _ (by decide)⟩
  | .integer true ds =>
    have hds : Digits ds := hw
    obtain ⟨d, ds', rfl, hdigit⟩ := hds.exists_cons
    exact ⟨'-', d :: ds', rfl, by decide, by decide, fun s X h => token_sign h hdigit⟩
  | .integer false ds =>
    have hds : Digits ds := hw
    obtain ⟨d, ds', rfl, hdigit⟩ := hds.exists_cons
    have hd := of_isDigit (p := fun d => !isIndicator d && d != '.' && !isBlank d &&
      !isBreak d && d != '\r' && d != ' ' && d != '#') (by decide) hdigit
    simp only [Bool.and_eq_true, Bool.not_eq_true', bne_iff_ne] at hd
    obtain ⟨⟨⟨⟨⟨⟨hmark, hdot⟩, hblank⟩, hbreak⟩, hreturn⟩, hspace⟩, hcomment⟩ := hd
    exact ⟨d, ds', rfl, ⟨hspace, hcomment, hbreak⟩, hreturn,
      hletter d ds' ⟨hmark, hdot, hblank, hbreak⟩⟩

theorem plainScalar_eq {ks : List (Int × Candidate)} {text : String} {newLine : Bool} {c : Cursor}
    (hsave : s.saveKey = .ok { s with candidates := ks })
    (hread : plain s.inFlow (s.indent + 1) s.fuel s.cursor = (text, newLine, c)) :
    s.plainScalar = .ok (((({ s with candidates := ks } : Lexer).allowKey newLine).emit
      (.scalar text true)).moveTo c) := by
  have hread : plain ({ s with candidates := ks } : Lexer).inFlow (s.indent + 1) s.fuel
      s.cursor = (text, newLine, c) := hread
  rw [plainScalar, hsave]
  simp only [bind, Except.bind, hread]

/-- A word inside brackets, with the blanks after it. -/
theorem reads_word {w : Written} {y : Char} (h : s.Blockless) (hlevel : 0 < s.level)
    (hw : w.Valid) (hword : w.isWord) (hbs : Blank bs) (htab : '\t' ∉ bs) (hy : isFlowMark y)
    (hstands : s.Stands (w.text ++ (bs ++ y :: X))) :
    ∃ t, s.Reads w.tokens 0 t ∧ t.Stands (y :: X) := by
  obtain ⟨x, xs, htext, hx, hreturn, htoken⟩ := exists_token_word hw hword
  have hchars := isWordChar_of_mem hw hword
  rw [htext] at hchars hstands
  have hplain : '\r' ∉ xs := fun hmem =>
    absurd (hchars '\r' (List.mem_cons_of_mem _ hmem)) (by decide)
  have hyreturn : y ≠ '\r' := by rintro rfl; cases hy
  obtain ⟨bs', hbs', hblank⟩ := Text.unifyNewlines_blank hbs htab (y :: X)
  rw [List.cons_append] at hstands
  obtain ⟨cs, hf⟩ := hstands.faces h hx hreturn
  rw [Text.unifyNewlines_append hplain, hblank, Text.unifyNewlines_cons hyreturn] at hf
  have hrest : (s.arrived cs).cursor.rest =
      w.text ++ (bs' ++ y :: Text.unifyNewlines X) := by
    rw [hf.rest_arrived, htext, List.cons_append]
  obtain ⟨newLine, c, hread, hafter⟩ := plain_word hw hword hbs' hy hrest
    (Nat.le_of_lt hf.blockless_arrived.length_lt) ((s.arrived cs).indent + 1)
  obtain ⟨ks, hks, hsave⟩ := saveKey_eq hf.blockless_arrived
  have hflow : (s.arrived cs).inFlow = true := by
    show (s.level != 0) = true
    simp only [bne_iff_ne]
    omega
  rw [← hflow] at hread
  have hscalar := (htoken _ _ hrest).trans (plainScalar_eq hsave hread)
  rw [Written.tokens_word hword]
  exact ⟨_, hf.reads hscalar ⟨rfl, rfl, rfl⟩ hks rfl (by simp) (Int.add_zero _).symm
    (by
      show c.rest.length ≤ _
      rw [hafter]
      simp only [List.length_append, List.length_cons]
      omega), .of_rest (by rw [Text.unifyNewlines_cons hyreturn]; exact hafter)⟩

theorem literal_append (pieces : List Piece) (X : List Char) :
    literal pieces ++ X = '"' :: (inside pieces ++ '"' :: X) := by
  simp [literal]

theorem unifyNewlines_literal {pieces : List Piece} (hp : ∀ p ∈ pieces, p.Valid)
    (hcommon : ∀ p ∈ pieces, p.Common) (X : List Char) :
    Text.unifyNewlines (inside pieces ++ '"' :: X) =
      inside pieces ++ '"' :: Text.unifyNewlines X := by
  have hreturn : '\r' ∉ inside pieces := fun hmem =>
    (inline_of_mem_literal hp hcommon '\r'
      (List.mem_append_left _ (List.mem_cons_of_mem _ hmem))).ne_return rfl
  rw [Text.unifyNewlines_append hreturn, Text.unifyNewlines_cons (by decide)]

/-- A string literal. -/
theorem reads_literal {pieces : List Piece} (h : s.Blockless) (hp : ∀ p ∈ pieces, p.Valid)
    (hcommon : ∀ p ∈ pieces, p.Common) (hstands : s.Stands (literal pieces ++ X)) :
    ∃ t, s.Reads [.scalar (meaning pieces) false] 0 t ∧ t.Stands X := by
  rw [literal_append] at hstands
  obtain ⟨bs, hf⟩ := hstands.faces h (by decide) (by decide)
  rw [unifyNewlines_literal hp hcommon] at hf
  have hrest : (s.arrived bs).cursor.rest = literal pieces ++ Text.unifyNewlines X := by
    rw [hf.rest_arrived, literal_append]
  have hafter := rest_advance_of_append hrest
  obtain ⟨cs, hcs, hsave⟩ := saveKey_eq hf.blockless_arrived
  have htoken := token_quote hf.rest_arrived
  rw [keyable, hsave] at htoken
  simp only [bind, Except.bind, quoted_literal hp hcommon hrest
    (Nat.le_of_lt hf.blockless_arrived.length_lt)] at htoken
  exact ⟨_, hf.reads htoken ⟨rfl, rfl, rfl⟩ hcs rfl (by simp) (Int.add_zero _).symm
    (by
      show ((s.arrived bs).cursor.advance _).rest.length ≤ _
      rw [hafter]
      simp only [List.length_append, List.length_cons]
      omega), .of_rest hafter⟩

/-! ## names -/

theorem token_colon (h : s.cursor.rest = ':' :: X) (hflow : s.inFlow = true) :
    s.token ':' = s.value := by
  simp [token, marker_eq_false h, hflow]

/-- A colon inside brackets finds the key that may have started before it. -/
theorem value_eq {p : Candidate} (hp : s.candidate = some p) (hflow : s.inFlow = true) :
    s.value = .ok ((((s.setCandidate none).insertAt p.position [.key]).allowKey false).emit
      .value |>.moveTo s.cursor.next) := by
  have hflow' : (s.setCandidate none).inFlow = true := hflow
  simp only [value, hp, hflow']
  rfl

/-- It is not too late for a key on the same line, if it is short. -/
theorem isStale_eq_false {c : Cursor} {p : Candidate} (hp : p.index = c.index ∧ p.line = c.line)
    (hrest : c.rest = cs ++ X) (hinline : ∀ x ∈ cs, isBreak x = false)
    (hshort : cs.length ≤ maxKeyLength) : isStale (c.advance cs.length) p = false := by
  obtain ⟨hindex, hline⟩ := advance_of_not_break hrest hinline
  simp only [isStale, hp, hindex, hline, bne_self_eq_false, Bool.false_or,
    decide_eq_false_iff_not]
  omega

/-- A place for which it is not too late stays. -/
theorem candidates_pruned {p : Int × Candidate} {cs : List (Int × Candidate)}
    (h : s.candidates = p :: cs) (hfresh : isStale s.cursor p.2 = false) :
    ∃ cs', s.pruned.candidates = p :: cs' := by
  refine ⟨cs.filter fun k => !isStale s.cursor k.2, ?_⟩
  rw [pruned, h, List.filter_cons_of_pos (by rw [hfresh]; rfl)]

/-- A string literal where a key may start is remembered as such a place. -/
theorem step_saved {pieces : List Piece} (hf : s.Faces bs '"' (inside pieces ++ '"' :: X))
    (hallowed : s.keyAllowed) (hp : ∀ p ∈ pieces, p.Valid) (hcommon : ∀ p ∈ pieces, p.Common)
    (hshort : (literal pieces).length ≤ maxKeyLength) :
    ∃ t cs, Step s t ∧ t.Blockless ∧ t.tokens = .scalar (meaning pieces) false :: s.tokens ∧
      t.level = s.level ∧ t.cursor = (s.arrived bs).cursor.advance (literal pieces).length ∧
      t.candidates = (s.level, (s.arrived bs).here) :: cs := by
  have hrest : (s.arrived bs).cursor.rest = literal pieces ++ X := by
    rw [hf.rest_arrived, literal_append]
  have hafter := rest_advance_of_append hrest
  obtain ⟨cs, hcs, hsave⟩ := saveKey_of_allowed hf.blockless_arrived (by
    show (s.keyAllowed || _) = true
    rw [hallowed, Bool.true_or])
  have htoken := token_quote hf.rest_arrived
  rw [keyable, hsave] at htoken
  simp only [bind, Except.bind, quoted_literal hp hcommon hrest
    (Nat.le_of_lt hf.blockless_arrived.length_lt)] at htoken
  obtain ⟨r, htoken, hcandidates, htokens, hlevel, hcursor, hsame⟩ :
      ∃ r, (s.arrived bs).token '"' = .ok r ∧
        r.candidates = (s.level, (s.arrived bs).here) :: cs ∧
        r.tokens = .scalar (meaning pieces) false :: s.tokens ∧ r.level = s.level ∧
        r.cursor = (s.arrived bs).cursor.advance (literal pieces).length ∧
        r.indent = s.indent ∧ r.outer = s.outer ∧ r.fuel = s.fuel :=
    ⟨_, htoken, rfl, rfl, rfl, rfl, rfl, rfl, rfl⟩
  have hstep := hf.step htoken hsame (by rw [hcandidates]; exact List.forall_mem_cons.2 ⟨rfl, hcs⟩)
    (by rw [htokens]; simp)
    (by rw [hcursor, hafter]; simp only [List.length_append, List.length_cons]; omega)
  obtain ⟨cs', hcs'⟩ := candidates_pruned hcandidates (by
    rw [hcursor]
    exact isStale_eq_false ⟨rfl, rfl⟩ hrest
      (fun x hx => (inline_of_mem_literal hp hcommon x hx).not_break) hshort)
  exact ⟨r.pruned, cs', hstep.1, hstep.2, htokens, hlevel, hcursor, hcs'⟩

/-- The colon after a key. -/
theorem step_colon {p : Candidate} {cs : List (Int × Candidate)} (hf : s.Faces bs ':' X)
    (hlevel : 0 < s.level) (hp : s.candidates = (s.level, p) :: cs)
    (hposition : s.count = p.position + 1) (htokens : s.tokens = k :: ts)
    (hfresh : isStale (s.arrived bs).cursor p = false) :
    ∃ t, Step s t ∧ t.Blockless ∧ t.tokens = .value :: k :: .key :: ts ∧ t.level = s.level ∧
      t.cursor.rest = X := by
  have hflow : (s.arrived bs).inFlow = true := by
    show (s.level != 0) = true
    simp only [bne_iff_ne]
    omega
  obtain ⟨cs', hcs'⟩ := candidates_pruned (s := s.passed bs) hp hfresh
  have hcandidate : (s.arrived bs).candidate = some p := by
    rw [candidate]
    show List.lookup s.level (s.arrived bs).candidates = _
    rw [arrived, hcs']
    exact List.lookup_cons_self
  have htoken := token_colon hf.rest_arrived hflow
  rw [value_eq hcandidate hflow] at htoken
  have hinserted : (((s.arrived bs).setCandidate none).insertAt p.position [.key]).tokens =
      k :: .key :: ts := by
    show s.tokens.take (s.count - p.position) ++ [.key] ++ s.tokens.drop (s.count - p.position) = _
    rw [hposition, Nat.add_sub_cancel_left, htokens]
    rfl
  have hstep := hf.step htoken ⟨rfl, rfl, rfl⟩
    (hf.blockless_arrived.optional.filter _) (by simp [moveTo, emit])
    (Nat.le_of_eq (congrArg List.length hf.rest_next))
  exact ⟨_, hstep.1, hstep.2, congrArg (Token.value :: ·) hinserted, rfl, hf.rest_next⟩

/-- The name of a member and its colon.  The place where the name starts is saved, and not
forgotten before the colon. -/
theorem reads_name {n : Name} (h : s.Blockless) (hlevel : 0 < s.level) (hallowed : s.keyAllowed)
    (hn : n.Valid) (hcommon : n.Common) (hstands : s.Stands (n.text ++ X)) :
    ∃ t, s.Reads [.key, .scalar (meaning n.pieces) false, .value] 0 t ∧ t.Stands X := by
  have hgap : '\r' ∉ n.gap := fun hmem => absurd (hcommon.gap _ hmem) (by decide)
  rw [Name.text, List.append_assoc, List.append_assoc, List.append_assoc,
    List.cons_append] at hstands
  replace hstands := hstands.of_blank hn.before hcommon.before
  rw [literal_append] at hstands
  obtain ⟨bs, hf⟩ := hstands.faces h (by decide) (by decide)
  rw [unifyNewlines_literal hn.pieces hcommon.pieces, Text.unifyNewlines_append hgap,
    Text.unifyNewlines_cons (by decide)] at hf
  have hlength := hcommon.length_le
  obtain ⟨t, cs, hstep, ht, htokens, htlevel, hcursor, hcandidates⟩ :=
    step_saved hf hallowed hn.pieces hcommon.pieces (by omega)
  have hrest : (s.arrived bs).cursor.rest =
      literal n.pieces ++ (n.gap ++ ':' :: Text.unifyNewlines (n.lead ++ X)) := by
    rw [hf.rest_arrived, literal_append]
  have hcolon : t.Faces n.gap ':' (Text.unifyNewlines (n.lead ++ X)) :=
    ⟨ht, fun x hx => .inl (hcommon.gap x hx), by decide, by
      rw [hcursor]
      exact rest_advance_of_append hrest⟩
  have hinline : ∀ x ∈ literal n.pieces ++ n.gap, isBreak x = false := fun x hx =>
    (List.mem_append.1 hx).elim
      (fun hx => (inline_of_mem_literal hn.pieces hcommon.pieces x hx).not_break)
      fun hx => by rw [hcommon.gap x hx]; rfl
  have hfresh : isStale (t.arrived n.gap).cursor (s.arrived bs).here = false := by
    show isStale (t.cursor.advance n.gap.length) _ = false
    rw [hcursor, ← advance_add, ← List.length_append]
    exact isStale_eq_false ⟨rfl, rfl⟩ (by rw [hrest, List.append_assoc]) hinline
      (by rw [List.length_append]; exact hlength)
  have hposition : t.count = (s.arrived bs).here.position + 1 := by
    rw [t.count_eq, htokens, List.length_cons, ← s.count_eq]
    rfl
  obtain ⟨u, hstep', hu, hutokens, hulevel, hurest⟩ := step_colon hcolon (by omega)
    (by rw [hcandidates, htlevel]) hposition htokens hfresh
  exact ⟨u, ⟨.tail (.single hstep) hstep', hutokens, by omega, hu⟩,
    (Stands.of_rest hurest).of_blank hn.lead hcommon.lead⟩

end Yaml.Lexer

end ChainApi
