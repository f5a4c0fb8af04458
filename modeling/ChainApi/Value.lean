import ChainApi.Decimal
import ChainApi.Calendar

/-!
# ChainApi.Value

Decoded data before it is known to describe anything: what a JSON or YAML text
denotes.  The keys of a mapping are values themselves, since YAML allows
numbers, dates and truth values there, and its entries stay in order.

A list or mapping of a YAML text may contain itself.  Where it stands the value has
a knot with a number, and `Data` holds what stands for the number.

* `Value.get?` — the value of a member;
* `Value.sameKey` — which keys of a mapping count as one;
* `Value.isTruthy` — which values count as something rather than nothing;
* `Data.expose` — what a value holds, be it a knot or not.
-/

namespace ChainApi

/-- Decoded data. -/
inductive Value where
  | null
  | bool (b : Bool)
  | int (i : Int)
  | real (x : Binary64)
  | str (s : String)
  | bytes (bs : List UInt8)
  | date (d : Date)
  | timestamp (t : Timestamp)
  | list (items : List Value)
  | map (entries : List (Value × Value))
  /-- A list or mapping from which one leads back to itself. -/
  | knot (n : Nat)
  deriving Inhabited

namespace Value

/-- A mapping whose keys are all text. -/
def object (members : List (String × Value)) : Value :=
  .map (members.map fun m => (.str m.1, m.2))

/-! ## equality -/

mutual

/-- Are two values the same?  Decided by walking both at once. -/
def decEq : (v w : Value) → Decidable (v = w)
  | null, null => isTrue rfl
  | bool a, bool b => decidable_of_iff (a = b) (by simp)
  | int a, int b => decidable_of_iff (a = b) (by simp)
  | real a, real b => decidable_of_iff (a = b) (by simp)
  | str a, str b => decidable_of_iff (a = b) (by simp)
  | bytes a, bytes b => decidable_of_iff (a = b) (by simp)
  | date a, date b => decidable_of_iff (a = b) (by simp)
  | timestamp a, timestamp b => decidable_of_iff (a = b) (by simp)
  | list a, list b => @decidable_of_iff _ (a = b) (by simp) (decEqItems a b)
  | map a, map b => @decidable_of_iff _ (a = b) (by simp) (decEqEntries a b)
  | knot a, knot b => decidable_of_iff (a = b) (by simp)
  | null, bool _ | null, int _ | null, real _ | null, str _ | null, bytes _ | null, date _
  | null, timestamp _ | null, list _ | null, map _ | null, knot _ | bool _, null | bool _, int _
  | bool _, real _ | bool _, str _ | bool _, bytes _ | bool _, date _ | bool _, timestamp _
  | bool _, list _ | bool _, map _ | bool _, knot _ | int _, null | int _, bool _ | int _, real _
  | int _, str _ | int _, bytes _ | int _, date _ | int _, timestamp _ | int _, list _
  | int _, map _ | int _, knot _ | real _, null | real _, bool _ | real _, int _ | real _, str _
  | real _, bytes _ | real _, date _ | real _, timestamp _ | real _, list _ | real _, map _
  | real _, knot _ | str _, null | str _, bool _ | str _, int _ | str _, real _ | str _, bytes _
  | str _, date _ | str _, timestamp _ | str _, list _ | str _, map _ | str _, knot _
  | bytes _, null | bytes _, bool _ | bytes _, int _ | bytes _, real _ | bytes _, str _
  | bytes _, date _ | bytes _, timestamp _ | bytes _, list _ | bytes _, map _ | bytes _, knot _
  | date _, null | date _, bool _ | date _, int _ | date _, real _ | date _, str _
  | date _, bytes _ | date _, timestamp _ | date _, list _ | date _, map _ | date _, knot _
  | timestamp _, null | timestamp _, bool _ | timestamp _, int _ | timestamp _, real _
  | timestamp _, str _ | timestamp _, bytes _ | timestamp _, date _ | timestamp _, list _
  | timestamp _, map _ | timestamp _, knot _ | list _, null | list _, bool _ | list _, int _
  | list _, real _ | list _, str _ | list _, bytes _ | list _, date _ | list _, timestamp _
  | list _, map _ | list _, knot _ | map _, null | map _, bool _ | map _, int _ | map _, real _
  | map _, str _ | map _, bytes _ | map _, date _ | map _, timestamp _ | map _, list _
  | map _, knot _ | knot _, null | knot _, bool _ | knot _, int _ | knot _, real _
  | knot _, str _ | knot _, bytes _ | knot _, date _ | knot _, timestamp _ | knot _, list _
  | knot _, map _ =>
    isFalse nofun

/-- Equality of item lists. -/
def decEqItems : (vs ws : List Value) → Decidable (vs = ws)
  | [], [] => isTrue rfl
  | [], _ :: _ => isFalse nofun
  | _ :: _, [] => isFalse nofun
  | v :: vs, w :: ws =>
    match decEq v w, decEqItems vs ws with
    | isTrue h, isTrue hs => isTrue (by rw [h, hs])
    | isFalse h, _ => isFalse fun e => h (List.cons.inj e).1
    | _, isFalse h => isFalse fun e => h (List.cons.inj e).2

/-- Equality of entry lists. -/
def decEqEntries : (vs ws : List (Value × Value)) → Decidable (vs = ws)
  | [], [] => isTrue rfl
  | [], _ :: _ => isFalse nofun
  | _ :: _, [] => isFalse nofun
  | (k, v) :: vs, (j, w) :: ws =>
    match decEq k j, decEq v w, decEqEntries vs ws with
    | isTrue hk, isTrue h, isTrue hs => isTrue (by rw [hk, h, hs])
    | isFalse h, _, _ => isFalse fun e => h (Prod.mk.inj (List.cons.inj e).1).1
    | _, isFalse h, _ => isFalse fun e => h (Prod.mk.inj (List.cons.inj e).1).2
    | _, _, isFalse h => isFalse fun e => h (List.cons.inj e).2

end

instance : DecidableEq Value := decEq

/-! ## members -/

/-- The entries of a mapping; any other value has none. -/
def entries : Value → List (Value × Value)
  | map es => es
  | _ => []

/-- The value of the member with this name, if the value is a mapping that has
one. -/
def get? (v : Value) (name : String) : Option Value :=
  (v.entries.find? fun e => e.1 = .str name).map Prod.snd

/-! ## keys -/

/-- The number that a value counts as among the keys of a mapping: an integer, a
truth value as 0 or 1, or a number that is an integer. -/
def keyNumber? : Value → Option Int
  | bool b => some (if b then 1 else 0)
  | int i => some i
  | real x => x.toInt?
  | _ => none

/-- Do two keys name one entry of a mapping?  Numbers do if they are equal,
points in time if they are the same instant. -/
def sameKey (v w : Value) : Bool :=
  match v.keyNumber?, w.keyNumber? with
  | some i, some j => i == j
  | none, none =>
    match v, w with
    | timestamp s, timestamp t => s.offset.isSome == t.offset.isSome && s.instant == t.instant
    | _, _ => v == w
  | _, _ => false

/-- The entries of a mapping after one more is written: a key that is there
keeps its place and its spelling and takes the new value. -/
def writeEntry (es : List (Value × Value)) (k v : Value) : List (Value × Value) :=
  if es.any fun e => e.1.sameKey k then
    es.map fun e => if e.1.sameKey k then (e.1, v) else e
  else es ++ [(k, v)]

/-! ## truth -/

/-- Nothing, falsehood, zero and all that is empty count as false. -/
def isTruthy : Value → Bool
  | null => false
  | bool b => b
  | int i => i != 0
  | real x => !x.isZero
  | str s => s != ""
  | bytes bs => !bs.isEmpty
  | date _ | timestamp _ => true
  | list items => !items.isEmpty
  | map es => !es.isEmpty
  | knot _ => true

@[simp] theorem get?_map_nil (name : String) : (map []).get? name = none := rfl

/-! ## knots -/

mutual

/-- Does a value contain a knot? -/
def hasKnot : Value → Bool
  | list vs => hasKnotItem vs
  | map es => hasKnotEntry es
  | knot _ => true
  | _ => false

/-- Does one of the items contain a knot? -/
def hasKnotItem : List Value → Bool
  | [] => false
  | v :: vs => hasKnot v || hasKnotItem vs

/-- Does one of the entries contain a knot? -/
def hasKnotEntry : List (Value × Value) → Bool
  | [] => false
  | (k, v) :: es => hasKnot k || hasKnot v || hasKnotEntry es

end

end Value

/-- What the knots of some data stand for. -/
abbrev Knots := List (Nat × Value)

/-- What a value holds: a knot holds what it stands for, any other value itself. -/
def Knots.expose (knots : Knots) : Value → Value
  | .knot n => (knots.lookup n).getD .null
  | v => v

/-- Decoded data that may contain itself. -/
structure Data where
  /-- The data itself, which is no knot. -/
  value : Value
  /-- What its knots stand for. -/
  knots : Knots := []

instance : Coe Value Data := ⟨fun v => { value := v }⟩

@[simp] theorem Knots.expose_nil {v : Value} (h : v.hasKnot = false) : Knots.expose [] v = v := by
  cases v <;> first | rfl | simp [Value.hasKnot] at h

end ChainApi
