import ChainApi.Proofs.Layout
import ChainApi.Proofs.Utf8
import ChainApi.Query

/-!
# ChainApi.Proofs.FormEncoding

Queries read back.  The characters that stand between the parts of a query are encoded
wherever they occur in a name or a value, so that a reader finds the parts again by cutting at
them.  Only then are the escapes undone, which gives the bytes of the texts.  What is read back
is known by the points of the texts, since these may hold halves of surrogate pairs, of which
there is no query.

* `Value.integers`, `Value.isUnspellable_iff` — integers that are too long to be written;
* `isEncoded_of_build` — the characters of a query;
* `decodeBytes?_encodeChar` — one character in form encoding;
* `decode?_of_build` — the parameters of a query are those that it was built from;
* `build_roundTrip` — a query shows the parameters that have a value, and nothing else.
-/

namespace ChainApi

/-! ## long integers -/

namespace Value

mutual

/-- The integers in a value. -/
def integers : Value → List Int
  | int i => [i]
  | list vs => itemIntegers vs
  | map es => entryIntegers es
  | _ => []

/-- The integers in the items of a list. -/
def itemIntegers : List Value → List Int
  | [] => []
  | v :: vs => v.integers ++ itemIntegers vs

/-- The integers in the keys and values of a mapping. -/
def entryIntegers : List (Value × Value) → List Int
  | [] => []
  | (k, v) :: es => k.integers ++ v.integers ++ entryIntegers es

end

theorem pow2_le_pow10 {k : Nat} (h : 4 ≤ k) : pow2 (3 * k + 1) ≤ pow10 k := by
  induction h with
  | refl => decide
  | @step k _ ih =>
    calc
      pow2 (3 * (k + 1) + 1) = pow2 (3 * k + 1) * 8 := Nat.pow_add 2 (3 * k + 1) 3
      _ ≤ pow10 k * 10 := Nat.mul_le_mul ih (by decide)
      _ = pow10 (k + 1) := (Nat.pow_succ ..).symm

/-- Three bits for each digit are not enough. -/
theorem lt_log2_of_pow10_le {k n : Nat} (hk : 4 ≤ k) (h : pow10 k ≤ n) : 3 * k < n.log2 := by
  have hpower : pow2 (3 * k + 1) ≤ n := Nat.le_trans (pow2_le_pow10 hk) h
  have hne : n ≠ 0 := Nat.ne_zero_of_lt (Nat.lt_of_lt_of_le (Nat.two_pow_pos _) hpower)
  exact (Nat.le_log2 hne).2 hpower

/-- The longest integers that can be written have 4300 digits. -/
theorem isLong_iff {i : Int} : isLong i = true ↔ pow10 4300 ≤ i.natAbs := by
  have hdigits : Text.Numeral.maxDigits = 4300 := rfl
  rw [← hdigits, isLong, Bool.and_eq_true, decide_eq_true_iff, decide_eq_true_iff,
    and_iff_right_iff_imp]
  exact lt_log2_of_pow10_le (by decide)

mutual

/-- A value cannot be written exactly if an integer in it is too long. -/
theorem isUnspellable_iff (v : Value) :
    v.isUnspellable [] 0 = true ↔ ∃ i ∈ v.integers, isLong i = true := by
  cases v with
  | int i => simp [isUnspellable, integers]
  | list vs => simpa [isUnspellable, integers] using hasUnspellable_iff vs
  | map es => simpa [isUnspellable, integers] using hasUnspellableEntry_iff es
  | _ => simp [isUnspellable, integers]

theorem hasUnspellable_iff (vs : List Value) :
    hasUnspellable [] 0 vs = true ↔ ∃ i ∈ itemIntegers vs, isLong i = true := by
  match vs with
  | [] => simp [hasUnspellable, itemIntegers]
  | v :: vs =>
    simp [hasUnspellable, itemIntegers, isUnspellable_iff v, hasUnspellable_iff vs, or_and_right,
      exists_or]

theorem hasUnspellableEntry_iff (es : List (Value × Value)) :
    hasUnspellableEntry [] 0 es = true ↔ ∃ i ∈ entryIntegers es, isLong i = true := by
  match es with
  | [] => simp [hasUnspellableEntry, entryIntegers]
  | (k, v) :: es =>
    simp [hasUnspellableEntry, entryIntegers, isUnspellable_iff k, isUnspellable_iff v,
      hasUnspellableEntry_iff es, or_and_right, exists_or, or_assoc]

end

end Value

namespace Query

open Text

/-! ## characters -/

section Characters

variable {params : List (Value × Value)} {query : String}

/-- A query is empty, or made of parts behind a question mark. -/
theorem exists_parts (h : build params = .ok query) :
    query = "" ∨ ∃ parts, query = "?" ++ "&".intercalate parts ∧
      ∀ part ∈ parts, ∀ c ∈ part.toList, IsEncoded c ∨ c = '=' := by
  obtain ⟨ps, parts, -, hparts, rfl⟩ := build_eq_ok_iff.1 h
  cases parts with
  | nil => exact .inl rfl
  | cons part parts =>
    refine .inr ⟨part :: parts, rfl, fun other hother => ?_⟩
    have hmem := List.mem_map_of_mem (f := some) hother
    rw [← mapM_eq_some_iff.1 hparts] at hmem
    obtain ⟨p, -, hp⟩ := List.mem_map.1 hmem
    exact isEncoded_of_pairText? hp

/-- Behind its question mark a query holds the characters of form encoding, and those between
its parts. -/
theorem isEncoded_of_build (h : build params = .ok query) :
    query = "" ∨ ∃ text, query = "?" ++ text ∧
      ∀ c ∈ text.toList, IsEncoded c ∨ c = '=' ∨ c = '&' := by
  refine (exists_parts h).imp_right ?_
  rintro ⟨parts, rfl, hparts⟩
  refine ⟨_, rfl, fun c => ?_⟩
  exact intercalate_of_append (P := fun s => c ∈ s → IsEncoded c ∨ c = '=' ∨ c = '&')
    (fun hc => absurd hc List.not_mem_nil)
    (fun xs ys hxs hys hc => (List.mem_append.1 hc).elim hxs hys)
    (fun hc => .inr (.inr (List.mem_singleton.1 hc)))
    fun part hpart hc => (hparts part hpart c hc).imp_right .inl

/-- A query begins with a question mark. -/
theorem head?_of_build (h : build params = .ok query) : ∀ c ∈ query.toList.head?, c = '?' := by
  rcases isEncoded_of_build h with rfl | ⟨text, rfl, -⟩
  · nofun
  · intro c hc
    rw [String.toList_append] at hc
    exact (Option.some.inj hc).symm

/-- A query holds the characters of form encoding, and those between its parts. -/
theorem not_mem_of_build {c : Char} (hc : ¬ IsEncoded c) (hmark : c ∉ ['?', '&', '='])
    (h : build params = .ok query) : c ∉ query.toList := by
  rcases isEncoded_of_build h with rfl | ⟨text, rfl, htext⟩
  · exact List.not_mem_nil
  · rw [String.toList_append, List.mem_append, not_or]
    refine ⟨fun hmem => hmark (List.mem_singleton.1 hmem ▸ by decide), fun hmem => ?_⟩
    rcases htext c hmem with h | rfl | rfl
    · exact hc h
    · exact hmark (by decide)
    · exact hmark (by decide)

end Characters

/-! ## bytes -/

section Bytes

variable {c : Char} {cs : List Char}

/-- A character without a meaning of its own stands for its bytes. -/
theorem decodeBytes?_plain (hplus : c ≠ '+') (hpercent : c ≠ '%') :
    decodeBytes? (c :: cs) = (decodeBytes? cs).map (String.utf8EncodeChar c ++ ·) := by
  rw [decodeBytes?, if_neg hpercent, Utf8.encode_toString]
  · exact hplus
  · intro _ _ _ h
    exact absurd h hpercent

/-- An escape stands for the byte that it is written for. -/
theorem decodeBytes?_escapeByte (b : UInt8) (cs : List Char) :
    decodeBytes? (escapeByte b ++ cs) = (decodeBytes? cs).map (b :: ·) := by
  have hlt := b.toNat_lt
  have hhigh := hexValue?_hexDigit (n := b.toNat / 16) (by omega)
  have hlow := hexValue?_hexDigit (n := b.toNat % 16) (by omega)
  have hbyte : UInt8.ofNat (b.toNat / 16 * 16 + b.toNat % 16) = b := by
    rw [Nat.div_add_mod', UInt8.ofNat_toNat]
  simp only [escapeByte, List.cons_append, List.nil_append, decodeBytes?, hhigh, hlow,
    Option.bind_eq_bind, Option.bind_some, hbyte]
  cases decodeBytes? cs <;> rfl

theorem decodeBytes?_escapes (bs : List UInt8) (cs : List Char) :
    decodeBytes? (bs.flatMap escapeByte ++ cs) = (decodeBytes? cs).map (bs ++ ·) := by
  induction bs with
  | nil => simp
  | cons b bs ih =>
    rw [List.flatMap_cons, List.append_assoc, decodeBytes?_escapeByte, ih, Option.map_map]
    rfl

/-- A character in form encoding stands for its bytes, whatever follows. -/
theorem decodeBytes?_encodeChar (c : Char) (cs : List Char) :
    decodeBytes? (encodeChar c ++ cs) =
      (decodeBytes? cs).map (String.utf8EncodeChar c ++ ·) := by
  rw [encodeChar]
  split
  · next hblank =>
    subst hblank
    rfl
  · split
    · next hplain =>
      refine decodeBytes?_plain ?_ ?_ <;> rintro rfl <;> exact absurd hplain (by decide)
    · rw [decodeBytes?_escapes, Utf8.encode_toString]

theorem decodeBytes?_encodeChars (cs : List Char) :
    decodeBytes? (cs.flatMap encodeChar) = some (Utf8.encode (String.ofList cs)) := by
  rw [Utf8.encode_eq, String.toList_ofList]
  induction cs with
  | nil => rfl
  | cons c cs ih => rw [List.flatMap_cons, decodeBytes?_encodeChar, ih, Option.map_some,
      List.flatMap_cons]

/-- A text in form encoding stands for the text. -/
theorem decodeText?_of_encode? {s text : String} (h : encode? s = some text) :
    ∃ t, decodeText? text.toList = some t ∧ pointsOf t = pointsOf s := by
  obtain ⟨cs, hcs, rfl⟩ := Option.map_eq_some_iff.1 h
  rw [← chars?_eq, chars?_eq_some_iff] at hcs
  refine ⟨ofChars cs, ?_, (pointsOf_ofChars cs).trans hcs.symm⟩
  rw [decodeText?, String.toList_ofList, decodeBytes?_encodeChars, Option.bind_some,
    Utf8.decode?_encode, Option.map_some, String.toList_ofList]

end Bytes

/-! ## parameters -/

section Parameters

variable {params : List (Value × Value)} {ps : List (String × String)} {parts : List String}
  {query : String}

/-- What a parameter is made of. -/
def pairPoints (p : String × String) : List Point × List Point := (pointsOf p.1, pointsOf p.2)

/-- A parameter is cut at its first equals sign, which is the one between its name and its
value. -/
theorem decodePair?_of_pairText? {p : String × String} {text : String}
    (h : pairText? p = some text) :
    ∃ q, decodePair? text.toList = some q ∧ pairPoints q = pairPoints p := by
  obtain ⟨name, value, hname, hvalue, rfl⟩ := exists_of_pairText? h
  obtain ⟨n, hn, hnPoints⟩ := decodeText?_of_encode? hname
  obtain ⟨v, hv, hvPoints⟩ := decodeText?_of_encode? hvalue
  have hequals : ∀ c ∈ name.toList, (c != '=') = true := by
    intro c hc
    have hmark : ¬ IsEncoded '=' := by decide
    exact bne_iff_ne.2 fun heq => hmark (heq ▸ isEncoded_of_encode? hname c hc)
  have hsign : "=".toList = ['='] := rfl
  refine ⟨(n, v), ?_, by rw [pairPoints, pairPoints, hnPoints, hvPoints]⟩
  rw [String.toList_append, String.toList_append, hsign, List.append_assoc,
    List.singleton_append, decodePair?, List.takeWhile_append_of_pos hequals,
    List.dropWhile_append_of_pos hequals]
  simp [hn, hv]

theorem decodePairs?_of_parts (h : ps.mapM pairText? = some parts) :
    ∃ qs, (parts.map String.toList).mapM decodePair? = some qs ∧
      qs.map pairPoints = ps.map pairPoints := by
  rw [mapM_eq_some_iff] at h
  induction ps generalizing parts with
  | nil =>
    obtain rfl := List.map_eq_nil_iff.1 h.symm
    exact ⟨[], rfl, rfl⟩
  | cons p ps ih =>
    obtain ⟨part, parts, rfl, hpart, hparts⟩ := List.map_eq_cons_iff.1 h.symm
    obtain ⟨q, hq, hqPoints⟩ := decodePair?_of_pairText? hpart.symm
    obtain ⟨qs, hqs, hqsPoints⟩ := ih hparts.symm
    refine ⟨q :: qs, ?_, by rw [List.map_cons, hqPoints, hqsPoints, List.map_cons]⟩
    simp [List.mapM_cons, hq, hqs]

/-- The parameters of a query are those that it was built from. -/
theorem decode?_of_build (hps : pairs? params = some ps) (h : build params = .ok query) :
    (decode? query).map (List.map pairPoints) = some (ps.map pairPoints) := by
  obtain ⟨ps', parts, hps', hparts, rfl⟩ := build_eq_ok_iff.1 h
  obtain rfl := Option.some.inj (hps.symm.trans hps')
  cases parts with
  | nil =>
    rw [mapM_eq_some_iff, List.map_nil, List.map_eq_nil_iff] at hparts
    rw [hparts]
    rfl
  | cons part parts =>
    -- no part holds the separator, since that is encoded wherever it occurs
    have hseparator : ∀ cs ∈ (part :: parts).map String.toList, '&' ∉ cs := by
      intro cs hcs hmem
      obtain ⟨text, htext, rfl⟩ := List.mem_map.1 hcs
      have hpart := List.mem_map_of_mem (f := some) htext
      rw [← mapM_eq_some_iff.1 hparts] at hpart
      obtain ⟨p, -, hp⟩ := List.mem_map.1 hpart
      exact absurd (isEncoded_of_pairText? hp '&' hmem) (by decide)
    have hsplit : ("&".intercalate (part :: parts)).toList.splitOn '&' =
        (part :: parts).map String.toList := by
      rw [String.toList_intercalate]
      exact List.splitOn_intercalate '&' hseparator (by simp)
    obtain ⟨qs, hqs, hpoints⟩ := decodePairs?_of_parts hparts
    have hquestion : "?".toList = ['?'] := rfl
    rw [ofParts, if_neg (by simp), decode?, String.toList_append, hquestion,
      List.singleton_append]
    simp only [hsplit, hqs, Option.map_some, hpoints]

/-- A parameter is written by what it is made of. -/
theorem pairText?_congr {p q : String × String} (h : pairPoints p = pairPoints q) :
    pairText? p = pairText? q := by
  obtain ⟨hname, hvalue⟩ := Prod.mk.inj h
  rw [pairText?, pairText?, encode?, encode?, encode?, encode?, hname, hvalue]

theorem mapM_pairText?_congr {qs : List (String × String)}
    (h : ps.map pairPoints = qs.map pairPoints) : ps.mapM pairText? = qs.mapM pairText? := by
  induction ps generalizing qs with
  | nil => rw [List.map_eq_nil_iff.1 h.symm]
  | cons p ps ih =>
    obtain ⟨q, qs, rfl, hq, hqs⟩ := List.map_eq_cons_iff.1 h.symm
    rw [List.mapM_cons, List.mapM_cons, pairText?_congr hq.symm, ih hqs.symm]

/-- A parameter is written unless there is a half in it. -/
theorem pairText?_eq_none_iff {p : String × String} : pairText? p = none ↔
    ∃ k, .half k ∈ (pairPoints p).1 ∨ .half k ∈ (pairPoints p).2 := by
  have hencode : ∀ s, encode? s = none ↔ ∃ k, .half k ∈ pointsOf s := by
    intro s
    rw [← hasHalf_eq_true_iff, hasHalf, chars?_eq, encode?, encodePoints?, Option.map_eq_none_iff,
      Option.isNone_iff_eq_none]
  rw [exists_or, pairPoints, ← hencode, ← hencode, pairText?]
  cases encode? p.1 <;> cases encode? p.2 <;> simp

end Parameters

/-! ## mappings -/

/-- What is shown of a value: nothing if there is none, truth values in lower case, and
everything else as its text. -/
def shown? : Value → Option String
  | .null => none
  | .bool b => some (if b then "true" else "false")
  | v => some v.text

/-- What is shown of a mapping, in its order. -/
def shownPairs (params : Table Value) : List (List Point × List Point) :=
  params.entries.filterMap fun e =>
    (shown? e.2).map fun text => (pointsOf e.1, pointsOf text)

/-- The parameters of a mapping. -/
def ofTable (params : Table Value) : List (Value × Value) :=
  params.entries.map fun e => (.str e.1, e.2)

section Mappings

variable {params other : Table Value} {ps : List (String × String)} {query otherQuery : String}

theorem valueText?_eq_none_iff {v : Value} :
    valueText? v = none ↔ v.isUnspellable [] 0 = true := by
  cases v with
  | bool b => cases b <;> simp [valueText?, Value.isUnspellable]
  | _ => simp only [valueText?, Value.text?_eq_none_iff]

theorem shown?_of_valueText? {v : Value} {text : String} (hne : v ≠ .null)
    (h : valueText? v = some text) : shown? v = some text := by
  cases v with
  | null => exact absurd rfl hne
  | bool b => cases b <;> exact h
  | _ =>
    simp only [valueText?] at h
    exact congrArg some (Value.text_of_text? h)

/-- There is no text for a mapping exactly if an integer in it is too long. -/
theorem pairs?_eq_none_iff : pairs? (ofTable params) = none ↔
    ∃ e ∈ params.entries, ∃ i ∈ e.2.integers, pow10 4300 ≤ i.natAbs := by
  have hnull {v : Value} (h : v.isUnspellable [] 0 = true) : v ≠ .null := by
    rintro rfl
    simp [Value.isUnspellable] at h
  have hpair (e : String × Value) : (do
      let name ← (Value.str e.1).text?
      let value ← valueText? e.2
      return (name, value)) = none ↔ e.2.isUnspellable [] 0 = true := by
    rw [← valueText?_eq_none_iff, Value.text?_str]
    cases valueText? e.2 <;> simp
  simp only [pairs?, ofTable, mapM_eq_none_iff, List.mem_filter, List.mem_map,
    decide_eq_true_eq, ← Value.isLong_iff, ← Value.isUnspellable_iff]
  constructor
  · rintro ⟨_, ⟨⟨e, he, rfl⟩, -⟩, hnone⟩
    exact ⟨e, he, (hpair e).1 hnone⟩
  · rintro ⟨e, he, hlong⟩
    exact ⟨_, ⟨⟨e, he, rfl⟩, hnull hlong⟩, (hpair e).2 hlong⟩

/-- The texts of a mapping show what it holds. -/
theorem pairPoints_of_pairs? (h : pairs? (ofTable params) = some ps) :
    ps.map pairPoints = shownPairs params := by
  rw [ofTable] at h
  rw [shownPairs]
  generalize params.entries = es at h ⊢
  induction es generalizing ps with
  | nil =>
    obtain rfl := Option.some.inj h
    rfl
  | cons e es ih =>
    obtain ⟨name, v⟩ := e
    by_cases hv : v = .null
    · subst hv
      exact ih h
    · rw [pairs?, List.map_cons, List.filter_cons_of_pos (by simpa using hv), List.mapM_cons] at h
      simp only [Value.text?_str, Option.bind_eq_bind, Option.bind_some, Option.pure_def,
        Option.bind_eq_some_iff, Option.some.injEq] at h
      obtain ⟨_, ⟨value, hvalue, rfl⟩, rest, hrest, rfl⟩ := h
      rw [List.map_cons, ih hrest, List.filterMap_cons, shown?_of_valueText? hv hvalue]
      rfl

/-- The query of a mapping can be read back. -/
theorem decode?_build_ofTable (h : build (ofTable params) = .ok query) :
    (decode? query).map (List.map pairPoints) = some (shownPairs params) := by
  obtain ⟨ps, -, hps, -, -⟩ := build_eq_ok_iff.1 h
  rw [decode?_of_build hps h, pairPoints_of_pairs? hps]

/-- There are texts but no query exactly if half of a surrogate pair stands in what is to be
shown. -/
theorem build_ofTable_eq_notEncodable_iff : build (ofTable params) = .error .notEncodable ↔
    (∀ e ∈ params.entries, ∀ i ∈ e.2.integers, i.natAbs < pow10 4300) ∧
      ∃ p ∈ shownPairs params, ∃ k, .half k ∈ p.1 ∨ .half k ∈ p.2 := by
  have hwritten : (∃ ps, pairs? (ofTable params) = some ps) ↔
      ∀ e ∈ params.entries, ∀ i ∈ e.2.integers, i.natAbs < pow10 4300 := by
    rw [← Option.ne_none_iff_exists', ne_eq, pairs?_eq_none_iff]
    simp only [not_exists, not_and, Nat.not_le]
  rw [build_eq_notEncodable_iff, ← hwritten]
  constructor
  · rintro ⟨ps, hps, p, hp, hnone⟩
    exact ⟨⟨ps, hps⟩, _, pairPoints_of_pairs? hps ▸ List.mem_map_of_mem hp,
      pairText?_eq_none_iff.1 hnone⟩
  · rintro ⟨⟨ps, hps⟩, shown, hshown, hhalf⟩
    rw [← pairPoints_of_pairs? hps] at hshown
    obtain ⟨p, hp, rfl⟩ := List.mem_map.1 hshown
    exact ⟨ps, hps, p, hp, pairText?_eq_none_iff.2 hhalf⟩

theorem build_inj_iff (h : build (ofTable params) = .ok query)
    (hother : build (ofTable other) = .ok otherQuery) :
    query = otherQuery ↔ shownPairs params = shownPairs other := by
  constructor
  · rintro rfl
    exact Option.some.inj ((decode?_build_ofTable h).symm.trans (decode?_build_ofTable hother))
  · intro hshown
    obtain ⟨ps, parts, hps, hparts, rfl⟩ := build_eq_ok_iff.1 h
    obtain ⟨qs, others, hqs, hothers, rfl⟩ := build_eq_ok_iff.1 hother
    rw [← pairPoints_of_pairs? hps, ← pairPoints_of_pairs? hqs] at hshown
    rw [mapM_pairText?_congr hshown, hothers] at hparts
    rw [Option.some.inj hparts]

example : build (ofTable (.ofList
    [("memo", .str "a&b=c"), ("prove", .bool true), ("page", .null)])) =
      .ok "?memo=a%26b%3Dc&prove=true" := by decide +kernel

end Mappings

end Query

end ChainApi
