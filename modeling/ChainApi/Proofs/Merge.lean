import ChainApi.Catalogue
import ChainApi.Lists

/-!
# ChainApi.Proofs.Merge

Merging as an algebra on ordered catalogues, and what a merge of many catalogues
holds.  Both follow from two facts on tables: a union is known by the order of its
keys and by what it holds under each of them, and in a union of many tables these
are the keys of all of them without the repetitions, and the combination of what
the tables hold under a key.

* `Catalogue.merge_monoid` — merging is associative, and the empty catalogue is
  neutral on both sides;
* `Catalogue.keys_mergeAll` — the operations of a merge of many catalogues, in order;
* `Catalogue.get?_mergeAll` — the record of one operation in it.
-/

namespace ChainApi

/-- The combination of a list of values, from left to right; nothing for no values. -/
def combine (f : α → α → α) : List α → Option α
  | [] => none
  | a :: as => some (as.foldl f a)

@[simp] theorem combine_nil (f : α → α → α) : combine f [] = none := rfl

theorem combine_cons (f : α → α → α) (a : α) (as : List α) :
    combine f (a :: as) = some (as.foldl f a) := rfl

/-- Where the left value wins, the combination is the first of the values. -/
theorem combine_left (as : List α) : combine (fun a _ => a) as = as.head? := by
  cases as with
  | nil => rfl
  | cons a as =>
    have hfold : ∀ bs : List α, bs.foldl (fun a _ => a) a = a := by
      intro bs
      induction bs with
      | nil => rfl
      | cons b bs ih => exact ih
    rw [combine_cons, hfold, List.head?_cons]

/-! ## unions of many tables -/

namespace Table

variable {α : Type u}

/-- The union of a list of tables, from left to right. -/
def unionAllWith (f : α → α → α) (ts : List (Table α)) : Table α := ts.foldl (unionWith f) ∅

theorem keys_foldl_unionWith (f : α → α → α) (ts : List (Table α)) (s : Table α) :
    (ts.foldl (unionWith f) s).keys = (s.keys ++ ts.flatMap keys).eraseDups := by
  induction ts generalizing s with
  | nil => simp [eraseDups_of_nodup (show s.keys.Nodup from s.nodup_keys)]
  | cons t ts ih =>
    rw [List.foldl_cons, ih, keys_unionWith, List.flatMap_cons]
    exact eraseDups_append_filter s.keys t.keys (ts.flatMap keys)

/-- The keys of all tables in order, without the later repetitions. -/
theorem keys_unionAllWith (f : α → α → α) (ts : List (Table α)) :
    (unionAllWith f ts).keys = (ts.flatMap keys).eraseDups := by
  rw [unionAllWith, keys_foldl_unionWith, keys_empty, List.nil_append]

theorem get?_foldl_unionWith (f : α → α → α) (ts : List (Table α)) (s : Table α) (k : String) :
    (ts.foldl (unionWith f) s).get? k =
      combine f ((s.get? k).toList ++ ts.filterMap fun t => t.get? k) := by
  induction ts generalizing s with
  | nil => cases h : s.get? k <;> simp [h, combine]
  | cons t ts ih =>
    rw [List.foldl_cons, ih, get?_unionWith, List.filterMap_cons]
    cases s.get? k <;> cases t.get? k <;> simp [combine]

/-- Under a key stands the combination of what the tables hold there. -/
theorem get?_unionAllWith (f : α → α → α) (ts : List (Table α)) (k : String) :
    (unionAllWith f ts).get? k = combine f (ts.filterMap fun t => t.get? k) := by
  rw [unionAllWith, get?_foldl_unionWith, get?_empty]
  rfl

end Table

/-! ## merges of catalogues -/

namespace Catalogue

/-- Catalogues under merging are a monoid: brackets do not matter, and the empty
catalogue is neutral, in the order of the operations and of every column too. -/
theorem merge_monoid (a b c : Catalogue) :
    merge (merge a b) c = merge a (merge b c) ∧ merge ∅ a = a ∧ merge a ∅ = a :=
  ⟨merge_assoc a b c, empty_merge a, merge_empty a⟩

/-- The catalogues of a list, merged from left to right. -/
def mergeAll (cs : List Catalogue) : Catalogue := cs.foldl merge ∅

theorem foldl_merge_eq (a : Catalogue) (cs : List Catalogue) :
    cs.foldl merge a = merge a (mergeAll cs) := by
  induction cs generalizing a with
  | nil => exact (merge_empty a).symm
  | cons c cs ih =>
    rw [mergeAll, List.foldl_cons, List.foldl_cons, ih, ih, empty_merge, merge_assoc]

/-- Two lists of catalogues are merged by merging what each of them comes to. -/
theorem mergeAll_append (cs ds : List Catalogue) :
    mergeAll (cs ++ ds) = merge (mergeAll cs) (mergeAll ds) := by
  rw [mergeAll, List.foldl_append, foldl_merge_eq]
  rfl

/-- The operations of all catalogues in order, without the later repetitions. -/
theorem keys_mergeAll (cs : List Catalogue) :
    (mergeAll cs).keys = (cs.flatMap Table.keys).eraseDups :=
  Table.keys_unionAllWith OperationTypes.merge cs

/-- The record of an operation is that of the catalogues that have it, merged. -/
theorem get?_mergeAll (cs : List Catalogue) (id : String) :
    (mergeAll cs).get? id = combine OperationTypes.merge (cs.filterMap fun c => c.get? id) :=
  Table.get?_unionAllWith OperationTypes.merge cs id

end Catalogue

end ChainApi
