import ChainApi.Table
import ChainApi.Value.Text
import ChainApi.Text.Encoding
import ChainApi.Text.Numeral

/-!
# ChainApi.Check

Reading typed records out of decoded data.  A reading is either accepted or
rejected with every problem found, each with the place where it was found; the
problems of the parts of a record stand in the order of its fields.

* `Checked.seq_rejected` — two rejected parts report the problems of both;
* `Checked.all` — every item of a list is read, whatever the others do;
* `Checked.seq_eq_accepted`, `Checked.all_eq_accepted` — parts are accepted together if
  each of them is;
* `Value.exists_of_checkTable`, `Value.eq_or_of_memberOr` — where the parts of what is
  accepted come from.
-/

namespace ChainApi

/-- One step into decoded data. -/
inductive Step where
  | member (name : String)
  | index (i : Int)
  deriving DecidableEq, Repr

/-- Why a piece of data does not fit. -/
inductive Mismatch where
  /-- A required member is absent. -/
  | missing
  | notText
  /-- Bytes that stand for text are no well-formed UTF-8. -/
  | notUnicode
  | notMapping
  | notList
  /-- A record is expected, and the data is no mapping. -/
  | notRecord
  /-- A record that keeps its unknown members has one whose key is no text. -/
  | notMemberName
  /-- The data is none of the choices. -/
  | notChoice
  | notTruth
  /-- The data is of a kind that may stand for a truth value, but does not. -/
  | unclearTruth
  | notInteger
  /-- A text that does not denote an integer. -/
  | unclearInteger
  | notWhole
  | notFinite
  /-- A number beyond the range in which it can be taken for an integer. -/
  | tooLarge
  /-- The data contains itself where it should end, or it is nested too deeply. -/
  | endless
  /-- A key whose spelling is too long. -/
  | unspellable
  deriving DecidableEq, Repr

/-- Something in decoded data that does not fit, and where it stands. -/
structure Problem where
  place : List Step
  mismatch : Mismatch
  deriving DecidableEq, Repr

/-- The outcome of reading a record out of decoded data. -/
inductive Checked (α : Type u) where
  | accepted (a : α)
  | rejected (problems : List Problem)

namespace Checked

variable {α : Type u} {β : Type v}

/-- Change an accepted record. -/
def map (f : α → β) : Checked α → Checked β
  | accepted a => accepted (f a)
  | rejected ps => rejected ps

/-- Read two parts; the problems of the first come first. -/
def seq (f : Checked (α → β)) (x : Unit → Checked α) : Checked β :=
  match f, x () with
  | accepted f, accepted a => accepted (f a)
  | accepted _, rejected ps => rejected ps
  | rejected ps, accepted _ => rejected ps
  | rejected ps, rejected qs => rejected (ps ++ qs)

instance : Applicative Checked where
  pure := accepted
  seq := seq

/-- Reject for one reason, at the place of the data itself. -/
def reject (mismatch : Mismatch) : Checked α := rejected [⟨[], mismatch⟩]

/-- The reading took place one step into the data. -/
def under (step : Step) : Checked α → Checked α
  | accepted a => accepted a
  | rejected ps => rejected (ps.map fun p => { p with place := step :: p.place })

/-- Collect the readings of all items. -/
def all : List (Checked α) → Checked (List α)
  | [] => accepted []
  | x :: xs => List.cons <$> x <*> all xs

/-- The accepted record, if there is one. -/
def toOption : Checked α → Option α
  | accepted a => some a
  | rejected _ => none

/-- The problems, if there are any. -/
def toExcept : Checked α → Except (List Problem) α
  | accepted a => .ok a
  | rejected ps => .error ps

@[simp] theorem map_accepted (f : α → β) (a : α) : (accepted a).map f = accepted (f a) := rfl

@[simp] theorem fmap_accepted {α β : Type u} (f : α → β) (a : α) :
    f <$> accepted a = accepted (f a) := rfl

@[simp] theorem seq_accepted {α β : Type u} (f : α → β) (a : α) :
    (accepted f <*> accepted a) = accepted (f a) := rfl

/-- Two rejected parts report the problems of both. -/
@[simp] theorem seq_rejected {α β : Type u} (ps qs : List Problem) :
    ((rejected ps : Checked (α → β)) <*> rejected qs) = rejected (ps ++ qs) := rfl

@[simp] theorem under_accepted (step : Step) (a : α) : (accepted a).under step = accepted a := rfl

@[simp] theorem all_nil : all ([] : List (Checked α)) = accepted [] := rfl

/-- Accepted items are collected in order. -/
theorem all_map_accepted (as : List α) : all (as.map accepted) = accepted as := by
  induction as with
  | nil => rfl
  | cons a as ih => simp [all, ih]

theorem map_eq_accepted {α β : Type u} {f : α → β} {x : Checked α} {b : β} :
    f <$> x = accepted b ↔ ∃ a, x = accepted a ∧ f a = b := by
  cases x with
  | accepted a => simp
  | rejected ps => exact ⟨nofun, nofun⟩

/-- Two parts are accepted together if each of them is. -/
theorem seq_eq_accepted {α β : Type u} {f : Checked (α → β)} {x : Checked α} {b : β} :
    (f <*> x) = accepted b ↔ ∃ g a, f = accepted g ∧ x = accepted a ∧ g a = b := by
  cases f with
  | accepted g =>
    cases x with
    | accepted a => simp
    | rejected ps => exact ⟨nofun, nofun⟩
  | rejected ps => cases x <;> exact ⟨nofun, nofun⟩

theorem under_eq_accepted {step : Step} {x : Checked α} {a : α} :
    x.under step = accepted a ↔ x = accepted a := by
  cases x with
  | accepted b => rfl
  | rejected ps => exact ⟨nofun, nofun⟩

/-- All items are accepted together if each of them is. -/
theorem all_eq_accepted {xs : List (Checked α)} {as : List α} :
    all xs = accepted as ↔ xs = as.map accepted := by
  constructor
  · intro h
    induction xs generalizing as with
    | nil => cases h; rfl
    | cons x xs ih =>
      obtain ⟨g, bs, hx, hxs, rfl⟩ := seq_eq_accepted.1 h
      obtain ⟨a, rfl, rfl⟩ := map_eq_accepted.1 hx
      rw [ih hxs, List.map_cons]
  · rintro rfl
    exact all_map_accepted as

end Checked

namespace Value

/-! ## plain data -/

/-- Read a text. Bytes stand for the text that they encode. -/
def checkText : Value → Checked String
  | str s => .accepted s
  | bytes bs =>
    match Text.Utf8.decode? bs with
    | some s => .accepted (Text.ofChars s.toList)
    | none => .reject .notUnicode
  | _ => .reject .notText

/-- Read something that may be left out as `null`. -/
def checkOptional (read : Value → Checked α) : Value → Checked (Option α)
  | null => .accepted none
  | v => some <$> read v

/-- Does an integer fit into 64 bits? -/
def fitsWord (i : Int) : Bool := -0x8000000000000000 ≤ i && i < 0x8000000000000000

/-- Is a number within 64 bits, ends excluded? -/
def isWithinWord (i : Int) : Bool := -0x8000000000000000 < i && i < 0x8000000000000000

/-- The three bytes of a half of a surrogate pair, each shown as a character that cannot
be shown. -/
def shownHalf : List Char := List.replicate 3 '\uFFFD'

/-- The step into a mapping that its key stands for: a text by itself, an
integer as an index, and any other key by its spelling. -/
def keyStep (key : Value) : Step :=
  match key with
  | str s => .member (Text.mapHalves (fun _ => shownHalf) s)
  | bool b => .index (if b then 1 else 0)
  | int i =>
    if fitsWord i then .index i
    else .member (if isLong i then "<unprintable int object>" else toString i)
  | k => .member k.literal

/-- Read a key that has to be text. -/
def checkKey (key : Value) : Checked String :=
  (key.checkText.under (.member "[key]")).under key.keyStep

/-- Read a mapping with text keys.  Of each entry the key is read before the value. -/
def checkTable (read : Value → Checked α) : Value → Checked (Table α)
  | map es =>
    Table.ofList <$> Checked.all (es.map fun e =>
      Prod.mk <$> e.1.checkKey <*> (read e.2).under e.1.keyStep)
  | _ => .reject .notMapping

/-- Read a list. -/
def checkList (read : Value → Checked α) : Value → Checked (List α)
  | list vs => Checked.all (vs.mapIdx fun i v => (read v).under (.index i))
  | _ => .reject .notList

/-- Read one of a few texts with a fixed meaning. -/
def checkChoice (choices : List (String × α)) : Value → Checked α
  | str s =>
    match choices.lookup s with
    | some a => .accepted a
    | none => .reject .notChoice
  | _ => .reject .notChoice

/-! ## numbers and truth values -/

/-- The spellings of truth values, apart from case. -/
def truthWords : List (String × Bool) :=
  [("0", false), ("off", false), ("f", false), ("false", false), ("n", false), ("no", false),
    ("1", true), ("on", true), ("t", true), ("true", true), ("y", true), ("yes", true)]

/-- Read an integer that stands for a truth value. -/
def checkTruthInt (i : Int) : Checked Bool :=
  if i = 0 then .accepted false
  else if i = 1 then .accepted true
  else .reject .unclearTruth

/-- Read a truth value, or a number or text that stands for one. -/
def checkTruth : Value → Checked Bool
  | bool b => .accepted b
  | int i => if fitsWord i then checkTruthInt i else .reject .notTruth
  | real x =>
    match x.toInt? with
    | some i => if isWithinWord i then checkTruthInt i else .reject .notTruth
    | none => .reject .notTruth
  | str s =>
    match truthWords.lookup (s.map Char.toLower) with
    | some b => .accepted b
    | none => .reject .unclearTruth
  | bytes bs =>
    match (Text.Utf8.decode? bs).bind fun s => truthWords.lookup (s.map Char.toLower) with
    | some b => .accepted b
    | none => .reject .unclearTruth
  | _ => .reject .notTruth

/-- The integer that a numeral denotes: an optional sign, digits, and possibly a
point followed by zeros, with blanks around. -/
def numeral? (s : List Char) : Option Int :=
  let s := Text.Numeral.trimmed s
  let (negative, s) :=
    match s with
    | '-' :: cs => (true, cs)
    | '+' :: cs => (false, cs)
    | cs => (false, cs)
  let whole := s.takeWhile (· != '.')
  let zeros := (s.dropWhile (· != '.')).drop 1
  let plain := whole.length == s.length || (!zeros.isEmpty && zeros.all (· == '0'))
  if plain then
    (Text.Numeral.grouped? whole).map fun ds =>
      let n : Int := ds.foldl (fun n d => n * 10 + (d.toNat - 48)) 0
      if negative then -n else n
  else none

/-- Do the underscores of a text stand between other characters, one at a time? -/
def isGrouped : List Char → Bool
  | [] => true
  | ['_'] => false
  | [_] => true
  | c :: d :: cs => !(c == '_' && d == '_') && isGrouped (d :: cs)

/-- Does a text start like a numeral of more digits than are read, apart from zeros in
front? -/
def isLongNumeral (s : List Char) : Bool :=
  let s := Text.Numeral.trimmed s
  let s :=
    match s with
    | '-' :: cs | '+' :: cs => cs
    | cs => cs
  let digits := ((s.filter (· != '_')).dropWhile (· == '0')).takeWhile Char.isDigit
  Text.Numeral.maxDigits < digits.length && s.head? != some '_' && isGrouped s

/-- Read an integer, or a number or text that stands for one. -/
def checkInteger : Value → Checked Int
  | int i => .accepted i
  | bool b => .accepted (if b then 1 else 0)
  | real .nan => .reject .notFinite
  | real (.infinite _) => .reject .notFinite
  | real x =>
    match x.toInt? with
    | some i => if isWithinWord i then .accepted i else .reject .tooLarge
    | none => .reject .notWhole
  | str s =>
    if isLongNumeral s.toList then .reject .tooLarge
    else
      match numeral? s.toList with
      | some i => .accepted i
      | none => .reject .unclearInteger
  | _ => .reject .notInteger

/-! ## records -/

/-- The member under which a field is given: by its own name if that is
present, and otherwise by its other name. -/
def field? (v : Value) (name other : String) : Option (String × Value) :=
  match v.get? name with
  | some w => some (name, w)
  | none => (v.get? other).map fun w => (other, w)

/-- Read a field that has a default and two names. -/
def fieldOr (v : Value) (name other : String) (default : α) (read : Value → Checked α) :
    Checked α :=
  match v.field? name other with
  | some (used, w) => (read w).under (.member used)
  | none => .accepted default

/-- Read a field that has a default. -/
def memberOr (v : Value) (name : String) (default : α) (read : Value → Checked α) : Checked α :=
  v.fieldOr name name default read

/-- Read a field that may be absent or `null`. -/
def memberOptional (v : Value) (name other : String) (read : Value → Checked α) :
    Checked (Option α) :=
  v.fieldOr name other none (checkOptional read)

/-- Read a field that may be absent or a text. -/
def textMember (v : Value) (name : String) : Checked (Option String) :=
  v.memberOptional name name checkText

/-- Read a field that has to be there. -/
def required (v : Value) (name : String) (read : Value → Checked α) : Checked α :=
  match v.get? name with
  | some w => (read w).under (.member name)
  | none => (Checked.reject .missing).under (.member name)

/-- Read a record: anything but a mapping is rejected. -/
def checkRecord (v : Value) (read : Checked α) : Checked α :=
  match v with
  | map _ => read
  | _ => .reject .notRecord

/-! ## what is accepted -/

section Accepted

variable {α : Type} {read : Value → Checked α} {v w u : Value} {name other : String}
  {default a : α}

theorem checkOptional_of_ne_null (h : v ≠ .null) : checkOptional read v = some <$> read v := by
  cases v <;> first | rfl | exact absurd rfl h

/-- What is read from something that is no null has been accepted. -/
theorem checkOptional_eq_some :
    checkOptional read v = .accepted (some a) ↔ v ≠ .null ∧ read v = .accepted a := by
  by_cases h : v = .null
  · subst h
    exact ⟨nofun, fun h => absurd rfl h.1⟩
  · simp [checkOptional_of_ne_null h, Checked.map_eq_accepted, h]

/-- A record is accepted if the data is a mapping and its fields are. -/
theorem checkRecord_eq_accepted {x : Checked α} :
    v.checkRecord x = .accepted a ↔ (∃ es, v = .map es) ∧ x = .accepted a := by
  cases v <;> simp [checkRecord, Checked.reject]

/-- A field is read as it was if its members are as they were. -/
theorem fieldOr_congr (default : α) (read : Value → Checked α)
    (hname : w.get? name = v.get? name) (hother : w.get? other = v.get? other) :
    w.fieldOr name other default read = v.fieldOr name other default read := by
  rw [fieldOr, fieldOr, field?, field?, hname, hother]

theorem memberOr_of_get? (h : w.get? name = some u) (hu : read u = .accepted a) :
    w.memberOr name default read = .accepted a := by
  rw [memberOr, fieldOr, field?, h]
  exact Checked.under_eq_accepted.2 hu

theorem memberOr_of_get?_eq_none (h : w.get? name = none) :
    w.memberOr name default read = .accepted default := by
  rw [memberOr, fieldOr, field?, h]
  rfl

/-- A field that has a default is the default, or has been read. -/
theorem eq_or_of_memberOr (h : v.memberOr name default read = .accepted a) :
    a = default ∨ ∃ u, read u = .accepted a := by
  rw [memberOr, fieldOr] at h
  split at h
  · exact .inr ⟨_, Checked.under_eq_accepted.1 h⟩
  · cases h
    exact .inl rfl

/-- What stands in a table that was read has been read. -/
theorem exists_of_checkTable {t : Table α} (h : checkTable read v = .accepted t) :
    ∀ e ∈ t.entries, ∃ u, read u = .accepted e.2 := by
  intro e he
  cases v with
  | map es =>
    obtain ⟨as, has, rfl⟩ := Checked.map_eq_accepted.1 h
    have hmem := List.mem_map_of_mem (f := Checked.accepted) (Table.mem_of_mem_entries_ofList he)
    rw [← Checked.all_eq_accepted.1 has] at hmem
    obtain ⟨d, -, hd⟩ := List.mem_map.1 hmem
    obtain ⟨g, b, hg, hb, rfl⟩ := Checked.seq_eq_accepted.1 hd
    obtain ⟨k, -, rfl⟩ := Checked.map_eq_accepted.1 hg
    exact ⟨d.2, Checked.under_eq_accepted.1 hb⟩
  | _ => cases h

end Accepted

end Value

end ChainApi
