import ChainApi.Lists
import ChainApi.Text.Encoding
import ChainApi.Value.Text

/-!
# ChainApi.Query

The query part of a request: parameters in form encoding.  Letters, digits and
`-._~` stand for themselves, a blank is a plus sign, and every other character
is written as its UTF-8 bytes in hexadecimal.  A parameter without a value is
left out.  There is no query if an integer is too long to be written, or else if
a text holds half of a surrogate pair, which has no bytes.

* `Query.build` — the query of a list of parameters, or why there is none;
* `Query.decode?` — the parameters of a query, the other way round;
* `build_eq_empty_iff` — a query is empty exactly if no parameter has a value;
* `isEncoded_of_encode?` — the characters of form encoding.
-/

namespace ChainApi.Query

/-- Does a character stand for itself? -/
def isUnreserved (c : Char) : Bool :=
  c.isAlphanum || c == '-' || c == '.' || c == '_' || c == '~'

/-- A hexadecimal digit in upper case. -/
def hexDigit (n : Nat) : Char := (Nat.digitChar n).toUpper

/-- A byte as a percent sign and two hexadecimal digits. -/
def escapeByte (b : UInt8) : List Char :=
  ['%', hexDigit (b.toNat / 16), hexDigit (b.toNat % 16)]

/-- One character in form encoding. -/
def encodeChar (c : Char) : List Char :=
  if c = ' ' then ['+']
  else if isUnreserved c then [c]
  else (Text.Utf8.encode c.toString).flatMap escapeByte

/-- What a text is made of in form encoding, unless there is a half in it. -/
def encodePoints? (ps : List Text.Point) : Option String :=
  (ps.mapM Text.Point.char?).map fun cs => String.ofList (cs.flatMap encodeChar)

/-- A text in form encoding, unless it holds a half. -/
def encode? (s : String) : Option String := encodePoints? (Text.pointsOf s)

/-- The text of a parameter's value, unless it cannot be written. -/
def valueText? : Value → Option String
  | .bool true => some "true"
  | .bool false => some "false"
  | v => v.text?

/-- The parameters that have a value, as texts, unless one of them cannot be written. -/
def pairs? (params : List (Value × Value)) : Option (List (String × String)) :=
  (params.filter fun p => p.2 ≠ .null).mapM fun p => do
    let name ← p.1.text?
    let value ← valueText? p.2
    return (name, value)

/-- One parameter as it is written, unless there is a half in it. -/
def pairText? (p : String × String) : Option String := do
  let name ← encode? p.1
  let value ← encode? p.2
  return name ++ "=" ++ value

/-- Why there is no query. -/
inductive Failure where
  /-- An integer has a numeral that is too long to be written. -/
  | longInteger
  /-- A text holds half of a surrogate pair. -/
  | notEncodable
  deriving DecidableEq, Repr

/-- The query of some parameters as they are written, with the question mark in front; empty
if there are none. -/
def ofParts (parts : List String) : String :=
  if parts.isEmpty then "" else "?" ++ "&".intercalate parts

/-- The query of a list of parameters. -/
def build (params : List (Value × Value)) : Except Failure String :=
  match pairs? params with
  | none => .error .longInteger
  | some ps =>
    match ps.mapM pairText? with
    | none => .error .notEncodable
    | some parts => .ok (ofParts parts)

section Build

variable {params : List (Value × Value)} {query : String}

theorem build_eq_ok_iff : build params = .ok query ↔
    ∃ ps parts, pairs? params = some ps ∧ ps.mapM pairText? = some parts ∧
      ofParts parts = query := by
  rw [build]
  cases pairs? params with
  | none => simp
  | some ps => cases hparts : ps.mapM pairText? <;> simp [hparts]

theorem build_eq_longInteger_iff : build params = .error .longInteger ↔ pairs? params = none := by
  rw [build]
  cases pairs? params with
  | none => simp
  | some ps => cases hparts : ps.mapM pairText? <;> simp [hparts]

theorem build_eq_notEncodable_iff : build params = .error .notEncodable ↔
    ∃ ps, pairs? params = some ps ∧ ∃ p ∈ ps, pairText? p = none := by
  rw [build]
  cases pairs? params with
  | none => simp
  | some ps =>
    simp only [Option.some.injEq, exists_eq_left', ← mapM_eq_none_iff]
    cases hparts : ps.mapM pairText? <;> simp

theorem ofParts_eq_empty_iff {parts : List String} : ofParts parts = "" ↔ parts = [] := by
  cases parts with
  | nil => simp [ofParts]
  | cons part parts =>
    refine iff_of_false (fun h => ?_) (List.cons_ne_nil _ _)
    have hchars := congrArg String.toList h
    simp [ofParts] at hchars

/-- A query is empty exactly if no parameter has a value. -/
theorem build_eq_empty_iff : build params = .ok "" ↔ ∀ p ∈ params, p.2 = .null := by
  have hnone : pairs? params = some [] ↔ ∀ p ∈ params, p.2 = .null := by
    rw [pairs?, mapM_eq_some_iff, List.map_nil, List.map_eq_nil_iff, List.filter_eq_nil_iff]
    simp
  rw [← hnone, build_eq_ok_iff]
  constructor
  · rintro ⟨ps, parts, hps, hparts, hempty⟩
    rw [ofParts_eq_empty_iff.1 hempty, mapM_eq_some_iff, List.map_nil, List.map_eq_nil_iff] at hparts
    rw [hps, hparts]
  · exact fun h => ⟨[], [], h, rfl, rfl⟩

end Build

/-! ## characters -/

/-- The characters of a text in form encoding. -/
def IsEncoded (c : Char) : Prop := isUnreserved c ∨ c = '+' ∨ c = '%'

instance : DecidablePred IsEncoded := fun c =>
  inferInstanceAs (Decidable (isUnreserved c ∨ c = '+' ∨ c = '%'))

theorem isEncoded_hexDigit {n : Nat} (h : n < 16) : IsEncoded (hexDigit n) := by
  have hall : ∀ n < 16, IsEncoded (hexDigit n) := by decide
  exact hall n h

theorem isEncoded_of_mem_escapeByte {b : UInt8} {c : Char} (h : c ∈ escapeByte b) :
    IsEncoded c := by
  have hhigh : b.toNat / 16 < 16 := by
    have := b.toNat_lt
    omega
  rw [escapeByte, List.mem_cons, List.mem_cons, List.mem_singleton] at h
  rcases h with rfl | rfl | rfl
  · exact .inr (.inr rfl)
  · exact isEncoded_hexDigit hhigh
  · exact isEncoded_hexDigit (Nat.mod_lt _ (by decide))

theorem isEncoded_of_mem_encodeChar {c d : Char} (h : d ∈ encodeChar c) : IsEncoded d := by
  rw [encodeChar] at h
  split at h
  · exact .inr (.inl (List.mem_singleton.1 h))
  · split at h
    · next hplain => exact .inl (List.mem_singleton.1 h ▸ hplain)
    · obtain ⟨b, -, hb⟩ := List.mem_flatMap.1 h
      exact isEncoded_of_mem_escapeByte hb

theorem isEncoded_of_encode? {s text : String} (h : encode? s = some text) :
    ∀ c ∈ text.toList, IsEncoded c := by
  obtain ⟨cs, -, rfl⟩ := Option.map_eq_some_iff.1 h
  intro c hc
  rw [String.toList_ofList] at hc
  obtain ⟨d, -, hd⟩ := List.mem_flatMap.1 hc
  exact isEncoded_of_mem_encodeChar hd

theorem exists_of_pairText? {p : String × String} {text : String}
    (h : pairText? p = some text) : ∃ name value, encode? p.1 = some name ∧
      encode? p.2 = some value ∧ text = name ++ "=" ++ value := by
  simp only [pairText?, Option.bind_eq_bind, Option.bind_eq_some_iff, Option.pure_def,
    Option.some.injEq] at h
  obtain ⟨name, hname, value, hvalue, rfl⟩ := h
  exact ⟨name, value, hname, hvalue, rfl⟩

/-- A parameter is written in the characters of form encoding and an equals sign. -/
theorem isEncoded_of_pairText? {p : String × String} {text : String}
    (h : pairText? p = some text) : ∀ c ∈ text.toList, IsEncoded c ∨ c = '=' := by
  obtain ⟨name, value, hname, hvalue, rfl⟩ := exists_of_pairText? h
  intro c hc
  rw [String.toList_append, String.toList_append, List.mem_append, List.mem_append] at hc
  rcases hc with (hc | hc) | hc
  · exact .inl (isEncoded_of_encode? hname c hc)
  · exact .inr (List.mem_singleton.1 hc)
  · exact .inl (isEncoded_of_encode? hvalue c hc)

/-! ## the other way round -/

/-- The value of a hexadecimal digit in either case. -/
def hexValue? (c : Char) : Option Nat :=
  if c.isDigit then some (c.toNat - 48)
  else if 'A' ≤ c ∧ c ≤ 'F' then some (c.toNat - 55)
  else if 'a' ≤ c ∧ c ≤ 'f' then some (c.toNat - 87)
  else none

theorem hexValue?_hexDigit {n : Nat} (h : n < 16) : hexValue? (hexDigit n) = some n := by
  have hall : ∀ n < 16, hexValue? (hexDigit n) = some n := by decide
  exact hall n h

/-- The bytes of a text in form encoding, unless an escape is broken. -/
def decodeBytes? : List Char → Option (List UInt8)
  | [] => some []
  | '+' :: cs => (decodeBytes? cs).map (0x20 :: ·)
  | '%' :: a :: b :: cs => do
    let high ← hexValue? a
    let low ← hexValue? b
    let rest ← decodeBytes? cs
    return UInt8.ofNat (high * 16 + low) :: rest
  | c :: cs => if c = '%' then none else (decodeBytes? cs).map (Text.Utf8.encode c.toString ++ ·)

/-- The text that a text in form encoding stands for. -/
def decodeText? (s : List Char) : Option String :=
  ((decodeBytes? s).bind Text.Utf8.decode?).map fun text => Text.ofChars text.toList

/-- One parameter, split at its first equals sign. -/
def decodePair? (s : List Char) : Option (String × String) := do
  let name ← decodeText? (s.takeWhile (· != '='))
  let value ← decodeText? ((s.dropWhile (· != '=')).drop 1)
  return (name, value)

/-- The parameters of a query with its question mark. -/
def decode? (query : String) : Option (List (String × String)) :=
  match query.toList with
  | [] => some []
  | '?' :: cs => (cs.splitOn '&').mapM decodePair?
  | _ => none

end ChainApi.Query
