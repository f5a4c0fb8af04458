import ChainApi.Proofs.Json.Written
import ChainApi.Yaml

/-!
# ChainApi.Proofs.Yaml.Common

The JSON texts that are YAML as well: those that YAML takes for the same data.  YAML
takes no tab for a blank, folds lines inside a string, refuses some characters, knows no
surrogate pairs, and finds a name only if its colon comes soon and on the same line.

* `Written.Common` — the parts of a text keep to what both languages have;
* `WrittenText.Common` — so does the text, which is not nested too deeply either;
* `Written.tokens` — what YAML reads then;
* `inline_of_mem_literal` — a string literal stands on one line;
* `WrittenText.isAllowed_of_mem` — every character of such a text may occur in YAML;
* `Text.unifyNewlines_blank` — its blanks become spaces and line feeds.
-/

namespace ChainApi

namespace Json

open Yaml

/-- Does YAML read a character of a string literal alike? -/
def Piece.Common : Piece → Prop
  | raw c => isAllowed c = true ∧ isBreak c = false
  | pair _ _ _ _ _ _ _ _ _ => False
  | _ => True

/-- Does YAML read the name of a member alike? -/
structure Name.Common (n : Name) : Prop where
  before : '\t' ∉ n.before
  pieces : ∀ p ∈ n.pieces, p.Common
  gap : ∀ c ∈ n.gap, c = ' '
  lead : '\t' ∉ n.lead
  length_le : (literal n.pieces).length + n.gap.length ≤ Lexer.maxKeyLength

mutual

/-- Does YAML read a value alike? -/
def Written.Common : Written → Prop
  | .null | .bool _ | .integer _ _ => True
  | .string pieces => ∀ p ∈ pieces, p.Common
  | .emptyList blank | .emptyObject blank => '\t' ∉ blank
  | .list items => items.Common
  | .object members => members.Common

/-- Does YAML read items alike? -/
def WrittenItems.Common : WrittenItems → Prop
  | .last before v after => '\t' ∉ before ∧ v.Common ∧ '\t' ∉ after
  | .more before v after rest => '\t' ∉ before ∧ v.Common ∧ '\t' ∉ after ∧ rest.Common

/-- Does YAML read members alike? -/
def WrittenMembers.Common : WrittenMembers → Prop
  | .last name v after => name.Common ∧ v.Common ∧ '\t' ∉ after
  | .more name v after rest => name.Common ∧ v.Common ∧ '\t' ∉ after ∧ rest.Common

end

/-- Does YAML read a text alike? -/
structure WrittenText.Common (t : WrittenText) : Prop where
  before : '\t' ∉ t.before
  content : t.content.Common
  after : '\t' ∉ t.after
  depth_le : t.content.depth ≤ Parse.maxDepth

/-! ## tokens -/

mutual

/-- The tokens of a value. -/
def Written.tokens : Written → List Token
  | .string pieces => [.scalar (meaning pieces) false]
  | .emptyList _ => [.openSequence, .closeSequence]
  | .list items => .openSequence :: (items.tokens ++ [.closeSequence])
  | .emptyObject _ => [.openMapping, .closeMapping]
  | .object members => .openMapping :: (members.tokens ++ [.closeMapping])
  | w => [.scalar (String.ofList w.text) true]

/-- The tokens of items and the commas between them. -/
def WrittenItems.tokens : WrittenItems → List Token
  | .last _ v _ => v.tokens
  | .more _ v _ rest => v.tokens ++ .comma :: rest.tokens

/-- The tokens of members and the commas between them. -/
def WrittenMembers.tokens : WrittenMembers → List Token
  | .last name v _ => .key :: .scalar (meaning name.pieces) false :: .value :: v.tokens
  | .more name v _ rest =>
    .key :: .scalar (meaning name.pieces) false :: .value :: (v.tokens ++ .comma :: rest.tokens)

end

/-- The first token of a value. -/
def startsValue : Token → Bool
  | .scalar _ _ | .openSequence | .openMapping => true
  | _ => false

theorem Written.exists_tokens (w : Written) :
    ∃ t ts, w.tokens = t :: ts ∧ startsValue t := by
  cases w <;> exact ⟨_, _, rfl, rfl⟩

theorem WrittenItems.exists_tokens (items : WrittenItems) :
    ∃ t ts, items.tokens = t :: ts ∧ startsValue t := by
  cases items with
  | last _ v _ => exact v.exists_tokens
  | more _ v _ rest =>
    obtain ⟨t, ts, htokens, ht⟩ := v.exists_tokens
    exact ⟨t, _, by rw [WrittenItems.tokens, htokens]; rfl, ht⟩

theorem WrittenMembers.exists_tokens (members : WrittenMembers) :
    ∃ ts, members.tokens = .key :: ts := by
  cases members <;> exact ⟨_, rfl⟩

theorem Written.tokens_word {w : Written} (h : w.isWord) :
    w.tokens = [.scalar (String.ofList w.text) true] := by
  cases w <;> first | rfl | cases h

/-! ## characters -/

/-- May a character occur in a text, and does it end no line? -/
structure Inline (x : Char) : Prop where
  allowed : isAllowed x = true
  not_break : isBreak x = false
  ne_return : x ≠ '\r'

variable {x : Char} {t : WrittenText}

theorem inline_of_ascii (h : 0x20 ≤ x.toNat ∧ x.toNat ≤ 0x7E) : Inline x := by
  have hne (y : Char) (hy : y.toNat < 0x20 ∨ 0x7E < y.toNat) : x ≠ y := by rintro rfl; omega
  refine ⟨by simp [isAllowed, h], ?_, hne _ (by decide)⟩
  simp [isBreak, hne '\n' (by decide), hne '\x85' (by decide), hne '\u2028' (by decide),
    hne '\u2029' (by decide)]

theorem inline_of_hexDigit? {n : Nat} (h : hexDigit? x = some n) : Inline x := by
  refine inline_of_ascii ?_
  have hle {a b : Char} (hab : a ≤ b) : a.toNat ≤ b.toNat := UInt32.le_iff_toNat_le.1 hab
  unfold hexDigit? at h
  split at h
  · next hdigit =>
    have := toNat_of_isDigit hdigit
    omega
  · split at h
    · next hlower => exact ⟨Nat.le_trans (by decide) (hle hlower.1),
        Nat.le_trans (hle hlower.2) (by decide)⟩
    · split at h
      · next hupper => exact ⟨Nat.le_trans (by decide) (hle hupper.1),
          Nat.le_trans (hle hupper.2) (by decide)⟩
      · cases h

/-- How a character is written in a literal stands on one line. -/
theorem inline_of_mem_text {p : Piece} (hp : p.Valid) (hcommon : p.Common) :
    ∀ x ∈ p.text, Inline x := by
  match p with
  | .raw c =>
    have hctl : 0x20 ≤ c.toNat := hp.1
    refine List.forall_mem_singleton.2 ⟨hcommon.1, hcommon.2, ?_⟩
    rintro rfl
    exact absurd hctl (by decide)
  | .short letter c =>
    refine List.forall_mem_cons.2 ⟨inline_of_ascii (by decide), List.forall_mem_singleton.2 ?_⟩
    have hletter : escape? letter = some c := hp
    unfold escape? at hletter
    split at hletter <;> first | exact inline_of_ascii (by decide) | cases hletter
  | .numeric d e f g c =>
    have hdigits : hex4? d e f g = some c.toNat := hp
    simp only [hex4?, Option.bind_eq_bind, Option.bind_eq_some_iff] at hdigits
    obtain ⟨_, hd, _, he, _, hf, _, hg, -⟩ := hdigits
    simp only [Piece.text, List.forall_mem_cons]
    exact ⟨inline_of_ascii (by decide), inline_of_ascii (by decide), inline_of_hexDigit? hd,
      inline_of_hexDigit? he, inline_of_hexDigit? hf, inline_of_hexDigit? hg,
      List.forall_mem_nil _⟩
  | .pair .. => exact hcommon.elim

/-- A string literal stands on one line. -/
theorem inline_of_mem_literal {pieces : List Piece} (hp : ∀ p ∈ pieces, p.Valid)
    (hcommon : ∀ p ∈ pieces, p.Common) : ∀ x ∈ literal pieces, Inline x := by
  intro x hx
  rcases List.mem_append.1 hx with hx | hx
  · rcases List.mem_cons.1 hx with rfl | hx
    · exact inline_of_ascii (by decide)
    · obtain ⟨p, hmem, hx⟩ := List.mem_flatMap.1 hx
      exact inline_of_mem_text (hp p hmem) (hcommon p hmem) x hx
  · rw [List.mem_singleton.1 hx]
    exact inline_of_ascii (by decide)

/-- Blanks may occur in a text. -/
theorem isAllowed_of_blank {bs : List Char} (hbs : Blank bs) : ∀ x ∈ bs, isAllowed x = true := by
  intro x hx
  have hblank : ((x = ' ' ∨ x = '\t') ∨ x = '\n') ∨ x = '\r' := by
    simpa [Json.isBlank] using hbs x hx
  rcases hblank with ((rfl | rfl) | rfl) | rfl <;> decide

theorem Name.Valid.isAllowed_of_mem {n : Name} (hn : n.Valid) (hcommon : n.Common) :
    ∀ x ∈ n.text, isAllowed x = true := by
  simp only [Name.text, List.forall_mem_append, List.forall_mem_cons]
  exact ⟨isAllowed_of_blank hn.before,
    fun x hx => (inline_of_mem_literal hn.pieces hcommon.pieces x hx).allowed,
    isAllowed_of_blank hn.gap, by decide, isAllowed_of_blank hn.lead⟩

mutual

theorem Written.isAllowed_of_mem (w : Written) (hw : w.Valid) (hcommon : w.Common) :
    ∀ x ∈ w.text, isAllowed x = true := by
  match w with
  | .null | .bool _ | .integer _ _ => exact Written.of_mem_word hw rfl (by decide)
  | .string _ => exact fun x hx => (inline_of_mem_literal hw hcommon x hx).allowed
  | .emptyList _ | .emptyObject _ =>
    simp only [Written.text, List.forall_mem_cons, List.forall_mem_append]
    exact ⟨by decide, isAllowed_of_blank hw, by decide, List.forall_mem_nil _⟩
  | .list items =>
    simp only [Written.text, List.forall_mem_cons, List.forall_mem_append]
    exact ⟨by decide, items.isAllowed_of_mem hw hcommon, by decide, List.forall_mem_nil _⟩
  | .object members =>
    simp only [Written.text, List.forall_mem_cons, List.forall_mem_append]
    exact ⟨by decide, members.isAllowed_of_mem hw hcommon, by decide, List.forall_mem_nil _⟩

theorem WrittenItems.isAllowed_of_mem (items : WrittenItems) (hitems : items.Valid)
    (hcommon : items.Common) : ∀ x ∈ items.text, isAllowed x = true := by
  match items with
  | .last _ v _ =>
    simp only [WrittenItems.text, List.forall_mem_append]
    exact ⟨isAllowed_of_blank hitems.1, v.isAllowed_of_mem hitems.2.1 hcommon.2.1,
      isAllowed_of_blank hitems.2.2⟩
  | .more _ v _ rest =>
    simp only [WrittenItems.text, List.forall_mem_append, List.forall_mem_cons]
    exact ⟨isAllowed_of_blank hitems.1, v.isAllowed_of_mem hitems.2.1 hcommon.2.1,
      isAllowed_of_blank hitems.2.2.1, by decide,
      rest.isAllowed_of_mem hitems.2.2.2 hcommon.2.2.2⟩

theorem WrittenMembers.isAllowed_of_mem (members : WrittenMembers) (hmembers : members.Valid)
    (hcommon : members.Common) : ∀ x ∈ members.text, isAllowed x = true := by
  match members with
  | .last _ v _ =>
    simp only [WrittenMembers.text, List.forall_mem_append]
    exact ⟨hmembers.1.isAllowed_of_mem hcommon.1, v.isAllowed_of_mem hmembers.2.1 hcommon.2.1,
      isAllowed_of_blank hmembers.2.2⟩
  | .more _ v _ rest =>
    simp only [WrittenMembers.text, List.forall_mem_append, List.forall_mem_cons]
    exact ⟨hmembers.1.isAllowed_of_mem hcommon.1, v.isAllowed_of_mem hmembers.2.1 hcommon.2.1,
      isAllowed_of_blank hmembers.2.2.1, by decide,
      rest.isAllowed_of_mem hmembers.2.2.2 hcommon.2.2.2⟩

end

/-- Every character of a text may occur in YAML. -/
theorem WrittenText.isAllowed_of_mem (ht : t.Valid) (hcommon : t.Common) :
    ∀ x ∈ t.text, isAllowed x = true := by
  simp only [WrittenText.text, List.forall_mem_append]
  exact ⟨isAllowed_of_blank ht.before, t.content.isAllowed_of_mem ht.content hcommon.content,
    isAllowed_of_blank ht.after⟩

/-! ## line breaks -/

/-- Are these spaces and line feeds? -/
def Spaced (cs : List Char) : Prop := ∀ x ∈ cs, x = ' ' ∨ x = '\n'

end Json

namespace Text

open Json

variable {bs cs : List Char} {x : Char}

theorem unifyNewlines_cons (hx : x ≠ '\r') (X : List Char) :
    unifyNewlines (x :: X) = x :: unifyNewlines X := by
  rw [unifyNewlines.eq_3 x X (fun _ h => absurd h hx), if_neg hx]

theorem unifyNewlines_append (h : '\r' ∉ cs) (X : List Char) :
    unifyNewlines (cs ++ X) = cs ++ unifyNewlines X := by
  induction cs with
  | nil => rfl
  | cons c cs ih =>
    rw [List.mem_cons, not_or] at h
    rw [List.cons_append, unifyNewlines_cons (Ne.symm h.1), ih h.2, List.cons_append]

/-- A carriage return adds no line break to one that follows it. -/
theorem unifyNewlines_return (X : List Char) :
    unifyNewlines ('\r' :: X) = unifyNewlines X ∨
      unifyNewlines ('\r' :: X) = '\n' :: unifyNewlines X := by
  by_cases h : ∃ Y, X = '\n' :: Y
  · obtain ⟨Y, rfl⟩ := h
    left
    rw [unifyNewlines.eq_2, unifyNewlines_cons (by decide)]
  · right
    rw [unifyNewlines.eq_3 '\r' X fun Y _ hX => h ⟨Y, hX⟩, if_pos rfl]

/-- Blanks other than tabs become spaces and line feeds. -/
theorem unifyNewlines_blank (hbs : Blank bs) (htab : '\t' ∉ bs) (X : List Char) :
    ∃ bs', Spaced bs' ∧ unifyNewlines (bs ++ X) = bs' ++ unifyNewlines X := by
  induction bs with
  | nil => exact ⟨[], List.forall_mem_nil _, rfl⟩
  | cons x bs ih =>
    rw [List.mem_cons, not_or] at htab
    obtain ⟨bs', hbs', heq⟩ := ih (fun y hy => hbs y (List.mem_cons_of_mem _ hy)) htab.2
    have hx : ((x = ' ' ∨ x = '\t') ∨ x = '\n') ∨ x = '\r' := by
      simpa [Json.isBlank] using hbs x List.mem_cons_self
    have hcons (y : Char) (hy : y = ' ' ∨ y = '\n') : Spaced (y :: bs') :=
      List.forall_mem_cons.2 ⟨hy, hbs'⟩
    rcases hx with ((rfl | rfl) | rfl) | rfl
    · exact ⟨' ' :: bs', hcons _ (.inl rfl), by
        rw [List.cons_append, unifyNewlines_cons (by decide), heq, List.cons_append]⟩
    · exact absurd rfl htab.1
    · exact ⟨'\n' :: bs', hcons _ (.inr rfl), by
        rw [List.cons_append, unifyNewlines_cons (by decide), heq, List.cons_append]⟩
    · rcases unifyNewlines_return (bs ++ X) with hr | hr
      · exact ⟨bs', hbs', by rw [List.cons_append, hr, heq]⟩
      · exact ⟨'\n' :: bs', hcons _ (.inr rfl), by
          rw [List.cons_append, hr, heq, List.cons_append]⟩

theorem mem_unifyNewlines (h : x ∈ unifyNewlines cs) :
    x ∈ cs ∨ x = '\n' := by
  induction cs with
  | nil => exact .inl h
  | cons c cs ih =>
    have hlater (h : x ∈ unifyNewlines cs) : x ∈ c :: cs ∨ x = '\n' :=
      (ih h).imp_left (List.mem_cons_of_mem c)
    by_cases hc : c = '\r'
    · rw [hc] at h
      rcases unifyNewlines_return cs with hr | hr <;> rw [hr] at h
      · exact hlater h
      · exact (List.mem_cons.1 h).elim .inr hlater
    · rw [unifyNewlines_cons hc] at h
      exact (List.mem_cons.1 h).elim (fun heq => .inl (heq ▸ List.mem_cons_self)) hlater

end Text

end ChainApi
