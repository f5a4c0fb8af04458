/-!
# ChainApi.Table

Finite maps from strings that remember the order in which their keys first
appeared.  Documents, catalogues and per-chain columns are all read and
written in this order, so it is part of the value: two tables are equal only
if their entries agree in order.

* `keys_insert`, `get?_insert` — inserting keeps the place of a known key;
* `keys_unionWith`, `get?_unionWith` — the left table decides the order, and
  new keys follow in the order of the right one;
* `ext_get?` — the order of the keys and what is stored under each of them make
  up a table;
* `ofList_entries` — a table is made of its entries;
* `mapWithKey_congr`, `mapWithKey_unionWith` — a change of the values counts by what it does
  to what is stored, and passes through a union;
* `unionWith_assoc` — the order of bracketing unions does not matter;
* `nodup_keys` — no key occurs twice, by construction.
-/

namespace ChainApi

/-- A map from strings whose entries stand in order of first appearance. -/
@[ext] structure Table (α : Type u) where
  entries : List (String × α)
  nodup_keys : (entries.map Prod.fst).Nodup

namespace Table

variable {α : Type u} {β : Type v} {γ : Type w}

/-- The keys, in order of first appearance. -/
def keys (t : Table α) : List String := t.entries.map Prod.fst

/-- The values, in the order of their keys. -/
def values (t : Table α) : List α := t.entries.map Prod.snd

/-- The number of entries. -/
def size (t : Table α) : Nat := t.entries.length

/-- The value stored under a key. -/
def get? (t : Table α) (k : String) : Option α := t.entries.lookup k

/-- Is there an entry under this key? -/
def contains (t : Table α) (k : String) : Bool := t.keys.contains k

/-- Has the table no entries? -/
def isEmpty (t : Table α) : Bool := t.entries.isEmpty

/-- The table without entries. -/
def empty : Table α := ⟨[], by simp⟩

instance : EmptyCollection (Table α) := ⟨empty⟩

instance : Inhabited (Table α) := ⟨empty⟩

instance [DecidableEq α] : DecidableEq (Table α) := fun s t =>
  decidable_of_iff (s.entries = t.entries) (Table.ext_iff (x := s) (y := t)).symm

/-- The table with a single entry. -/
def singleton (k : String) (a : α) : Table α := ⟨[(k, a)], by simp⟩

/-! ## pointwise operations -/

/-- Change each value, knowing its key. -/
def mapWithKey (f : String → α → β) (t : Table α) : Table β where
  entries := t.entries.map fun e => (e.1, f e.1 e.2)
  nodup_keys := by simpa [List.map_map, Function.comp_def] using t.nodup_keys

/-- Change each value. -/
def map (f : α → β) (t : Table α) : Table β := t.mapWithKey fun _ => f

/-- Keep the entries that satisfy a test. -/
def filter (p : String → α → Bool) (t : Table α) : Table α where
  entries := t.entries.filter fun e => p e.1 e.2
  nodup_keys := t.nodup_keys.sublist (List.filter_sublist.map _)

@[simp] theorem keys_mapWithKey (f : String → α → β) (t : Table α) :
    (t.mapWithKey f).keys = t.keys := by
  simp [keys, mapWithKey, Function.comp_def]

@[simp] theorem keys_map (f : α → β) (t : Table α) : (t.map f).keys = t.keys := by
  simp [map]

@[simp] theorem keys_empty : (∅ : Table α).keys = [] := rfl

@[simp] theorem entries_empty : (∅ : Table α).entries = [] := rfl

@[simp] theorem keys_singleton (k : String) (a : α) : (singleton k a).keys = [k] := rfl

@[simp] theorem get?_empty (k : String) : (∅ : Table α).get? k = none := rfl

@[simp] theorem contains_iff_mem_keys {t : Table α} {k : String} :
    t.contains k = true ↔ k ∈ t.keys := by
  simp [contains]

theorem contains_eq_false_iff {t : Table α} {k : String} :
    t.contains k = false ↔ k ∉ t.keys := by
  simp [contains]

/-- A key is present exactly when something is stored under it. -/
theorem isSome_get?_iff {t : Table α} {k : String} : (t.get? k).isSome ↔ k ∈ t.keys := by
  obtain ⟨es, h⟩ := t
  simp only [get?, keys]
  clear h
  induction es with
  | nil => simp
  | cons e es ih =>
    obtain ⟨j, a⟩ := e
    by_cases hk : k = j
    · subst hk; simp
    · have hb : (k == j) = false := by simp [hk]
      simp [List.lookup_cons, hb, ih, hk]

theorem get?_eq_none_iff {t : Table α} {k : String} : t.get? k = none ↔ k ∉ t.keys := by
  rw [← isSome_get?_iff]; simp

theorem mem_keys_of_get? {t : Table α} {k : String} {a : α} (h : t.get? k = some a) :
    k ∈ t.keys := isSome_get?_iff.1 (by rw [h]; rfl)

/-! ## equality -/

theorem lookup_of_mem {es : List (String × α)} (nodup : (es.map Prod.fst).Nodup)
    (h : (k, a) ∈ es) : es.lookup k = some a := by
  induction es with
  | nil => simp at h
  | cons e es ih =>
    obtain ⟨j, b⟩ := e
    rw [List.map_cons, List.nodup_cons] at nodup
    rcases List.mem_cons.1 h with he | hmem
    · cases he; simp
    · have hk : k ≠ j := by
        rintro rfl
        exact nodup.1 (List.mem_map.2 ⟨(k, a), hmem, rfl⟩)
      have hb : (k == j) = false := by simp [hk]
      rw [List.lookup_cons, hb]
      exact ih nodup.2 hmem

/-- What an entry holds is stored under its key. -/
theorem get?_of_mem_entries {t : Table α} (h : (k, a) ∈ t.entries) : t.get? k = some a :=
  lookup_of_mem t.nodup_keys h

/-- An entry is there for what is stored. -/
theorem mem_entries_of_get? {t : Table α} (h : t.get? k = some a) : (k, a) ∈ t.entries := by
  obtain ⟨⟨j, b⟩, he, rfl⟩ := List.mem_map.1 (mem_keys_of_get? h)
  have := get?_of_mem_entries he
  simp only [h, Option.some.injEq] at this
  exact this ▸ he

/-- The entries are the keys, each with what is stored under it. -/
theorem entries_map_some (t : Table α) :
    (t.entries.map fun e => (e.1, some e.2)) = t.keys.map fun k => (k, t.get? k) := by
  rw [keys, List.map_map]
  refine List.map_congr_left fun e he => ?_
  rw [Function.comp_apply, get?_of_mem_entries (a := e.2) he]

/-- Tables with the same keys in the same order, and the same value under each of
them, are equal. -/
theorem ext_get? {s t : Table α} (hkeys : s.keys = t.keys) (hget : ∀ k, s.get? k = t.get? k) :
    s = t := by
  have hmap : (s.entries.map fun e => (e.1, some e.2)) =
      t.entries.map fun e => (e.1, some e.2) := by
    rw [entries_map_some, entries_map_some, hkeys]
    exact List.map_congr_left fun k _ => by rw [hget k]
  apply Table.ext
  refine (List.map_inj_right ?_).1 hmap
  rintro ⟨j, a⟩ ⟨k, b⟩ h
  simpa using h

/-! ## insertion -/

/-- Replace the value of a key that is present, or add a new entry at the end. -/
def insert (t : Table α) (k : String) (a : α) : Table α :=
  if h : t.contains k then
    t.mapWithKey fun j b => if j = k then a else b
  else
    { entries := t.entries ++ [(k, a)]
      nodup_keys := by
        have hk : k ∉ t.keys := by simpa using h
        simpa [List.nodup_append, keys] using
          ⟨t.nodup_keys, fun j b hb hj => hk (hj ▸ List.mem_map.2 ⟨(j, b), hb, rfl⟩)⟩ }

/-- A table from entries in order: of two entries with one key the later value
stands at the earlier place. -/
def ofList (es : List (String × α)) : Table α :=
  es.foldl (fun t e => t.insert e.1 e.2) ∅

/-- A new entry stands last. -/
theorem entries_insert_of_new {t : Table α} {k : String} (new : k ∉ t.keys) (a : α) :
    (t.insert k a).entries = t.entries ++ [(k, a)] := by
  rw [insert, dif_neg (by simpa using new)]

theorem entries_foldl_insert (t : Table α) (es : List (String × α))
    (nodup : ((t.entries ++ es).map Prod.fst).Nodup) :
    (es.foldl (fun t e => t.insert e.1 e.2) t).entries = t.entries ++ es := by
  induction es generalizing t with
  | nil => simp
  | cons e es ih =>
    have hnew : e.1 ∉ t.keys := by
      rw [List.map_append, List.nodup_append] at nodup
      exact fun hk => nodup.2.2 _ hk _ (List.mem_map_of_mem List.mem_cons_self) rfl
    have hinsert := entries_insert_of_new hnew e.2
    have htext : (t.insert e.1 e.2).entries ++ es = t.entries ++ e :: es := by
      rw [hinsert, List.append_assoc, List.singleton_append]
    rw [List.foldl_cons, ih _ (htext ▸ nodup), htext]

/-- Entries without a repeated key stay as they are. -/
theorem entries_ofList {es : List (String × α)} (nodup : (es.map Prod.fst).Nodup) :
    (ofList es).entries = es :=
  entries_foldl_insert ∅ es nodup

/-- A table is made of its entries. -/
theorem ofList_entries (t : Table α) : ofList t.entries = t :=
  Table.ext (entries_ofList t.nodup_keys)

/-- Inserting keeps the place of a known key and puts a new one last. -/
theorem keys_insert (t : Table α) (k : String) (a : α) :
    (t.insert k a).keys = if k ∈ t.keys then t.keys else t.keys ++ [k] := by
  unfold insert
  split
  · next h => rw [keys_mapWithKey, if_pos (by simpa using h)]
  · next h => rw [if_neg (by simpa using h)]; simp [keys]

theorem get?_mapWithKey (f : String → α → β) (t : Table α) (k : String) :
    (t.mapWithKey f).get? k = (t.get? k).map (f k) := by
  obtain ⟨es, h⟩ := t
  simp only [get?, mapWithKey]
  clear h
  induction es with
  | nil => rfl
  | cons e es ih =>
    obtain ⟨j, a⟩ := e
    by_cases hk : k = j
    · subst hk; simp
    · have hb : (k == j) = false := by simp [hk]
      simp [List.lookup_cons, hb, ih]

theorem mapWithKey_self (t : Table α) : (t.mapWithKey fun _ a => a) = t := by
  apply Table.ext
  simp [mapWithKey]

theorem mapWithKey_mapWithKey (f : String → α → β) (g : String → β → γ) (t : Table α) :
    (t.mapWithKey f).mapWithKey g = t.mapWithKey fun k a => g k (f k a) := by
  apply Table.ext
  simp [mapWithKey]

/-- Two tables become the same if their values under each key do. -/
theorem mapWithKey_eq_mapWithKey {s : Table α} {t : Table β} {f : String → α → γ}
    {g : String → β → γ} (hkeys : s.keys = t.keys)
    (h : ∀ k a b, s.get? k = some a → t.get? k = some b → f k a = g k b) :
    s.mapWithKey f = t.mapWithKey g := by
  apply ext_get?
  · rw [keys_mapWithKey, keys_mapWithKey, hkeys]
  · intro k
    rw [get?_mapWithKey, get?_mapWithKey]
    have hboth : (s.get? k).isSome ↔ (t.get? k).isSome := by
      rw [isSome_get?_iff, isSome_get?_iff, hkeys]
    cases ha : s.get? k with
    | none =>
      cases hb : t.get? k with
      | none => rfl
      | some b => simp [ha, hb] at hboth
    | some a =>
      cases hb : t.get? k with
      | none => simp [ha, hb] at hboth
      | some b => rw [Option.map_some, Option.map_some, h k a b ha hb]

/-- A change of the values may be replaced by one that agrees with it on what is stored. -/
theorem mapWithKey_congr {t : Table α} {f g : String → α → β}
    (h : ∀ k a, t.get? k = some a → f k a = g k a) : t.mapWithKey f = t.mapWithKey g :=
  mapWithKey_eq_mapWithKey rfl fun k _ _ ha hb => by
    rw [ha] at hb
    cases hb
    exact h k _ ha

/-- The inserted value is found under its key, and every other key as before. -/
theorem get?_insert (t : Table α) (k j : String) (a : α) :
    (t.insert k a).get? j = if j = k then some a else t.get? j := by
  unfold insert
  split
  · next h =>
    rw [get?_mapWithKey]
    by_cases hj : j = k
    · subst hj
      have : (t.get? j).isSome := isSome_get?_iff.2 (by simpa using h)
      obtain ⟨b, hb⟩ := Option.isSome_iff_exists.1 this
      simp [hb]
    · simp [hj]
  · next h =>
    show (t.entries ++ [(k, a)]).lookup j = _
    rw [List.lookup_append]
    by_cases hj : j = k
    · subst hj
      have : t.get? j = none := get?_eq_none_iff.2 (by simpa using h)
      simp only [get?] at this
      simp [this]
    · have hb : (j == k) = false := by simp [hj]
      cases hl : t.entries.lookup j <;> simp [get?, hl, hj, List.lookup_cons, hb]

/-- An entry of a table after an insertion is the new one, or one that was there. -/
theorem mem_entries_insert {t : Table α} {e : String × α} (h : e ∈ (t.insert k a).entries) :
    e = (k, a) ∨ e ∈ t.entries := by
  have hget := get?_of_mem_entries (k := e.1) (a := e.2) h
  rw [get?_insert] at hget
  split at hget
  · next hk =>
    cases hget
    exact .inl (Prod.ext hk rfl)
  · exact .inr (mem_entries_of_get? hget)

theorem mem_entries_foldl_insert {t : Table α} {es : List (String × α)} {e : String × α}
    (h : e ∈ (es.foldl (fun t e => t.insert e.1 e.2) t).entries) : e ∈ t.entries ∨ e ∈ es := by
  induction es generalizing t with
  | nil => exact .inl h
  | cons d es ih =>
    obtain h | h := ih h
    · obtain rfl | h := mem_entries_insert h
      · exact .inr List.mem_cons_self
      · exact .inl h
    · exact .inr (List.mem_cons_of_mem _ h)

/-- What stands in a table from a list stands in the list. -/
theorem mem_of_mem_entries_ofList {es : List (String × α)} {e : String × α}
    (h : e ∈ (ofList es).entries) : e ∈ es :=
  (mem_entries_foldl_insert h).resolve_left (by simp)

theorem mapWithKey_insert (f : String → α → β) (t : Table α) (k : String) (a : α) :
    (t.insert k a).mapWithKey f = (t.mapWithKey f).insert k (f k a) := by
  apply ext_get?
  · simp only [keys_mapWithKey, keys_insert]
  · intro j
    rw [get?_mapWithKey, get?_insert, get?_insert, get?_mapWithKey]
    split
    · next h => rw [h, Option.map_some]
    · rfl

/-! ## union -/

/-- Both tables together.  A key of both carries the combination of its two
values; the keys of the left table come first, in their own order. -/
def unionWith (f : α → α → α) (s t : Table α) : Table α where
  entries :=
    (s.entries.map fun e => (e.1, ((t.get? e.1).map (f e.2)).getD e.2)) ++
      t.entries.filter fun e => !s.contains e.1
  nodup_keys := by
    simp only [List.map_append, List.map_map, List.nodup_append]
    refine ⟨s.nodup_keys, t.nodup_keys.sublist (List.filter_sublist.map _), ?_⟩
    intro a ha b hb hab
    subst hab
    obtain ⟨e, he, rfl⟩ := List.mem_map.1 hb
    have hs := (List.mem_filter.1 he).2
    simp only [Bool.not_eq_true', contains_eq_false_iff] at hs
    obtain ⟨e', he', hee⟩ := List.mem_map.1 ha
    exact hs (List.mem_map.2 ⟨e', he', hee⟩)

/-- Both tables together, where the left table wins on a key of both. -/
def union (s t : Table α) : Table α := unionWith (fun a _ => a) s t

/-- The left table decides the order; the new keys of the right one follow. -/
theorem keys_unionWith (f : α → α → α) (s t : Table α) :
    (unionWith f s t).keys = s.keys ++ t.keys.filter fun k => !s.contains k := by
  simp [keys, unionWith, List.filter_map, Function.comp_def]

theorem lookup_filter_not_mem (es : List (String × α)) (p : String → Bool) (k : String) :
    (es.filter fun e => p e.1).lookup k = if p k then es.lookup k else none := by
  induction es with
  | nil => simp
  | cons e es ih =>
    obtain ⟨j, a⟩ := e
    by_cases hk : k = j
    · subst hk
      by_cases hp : p k <;> simp [hp, ih]
    · have hb : (k == j) = false := by simp [hk]
      by_cases hp : p j <;> simp [hp, List.lookup_cons, hb, ih]

/-- An entry stays if its key passes the test. -/
theorem get?_filter_key (p : String → Bool) (t : Table α) (k : String) :
    (t.filter fun j _ => p j).get? k = if p k then t.get? k else none :=
  lookup_filter_not_mem t.entries p k

/-- A key of both tables carries the combination of its two values. -/
theorem get?_unionWith (f : α → α → α) (s t : Table α) (k : String) :
    (unionWith f s t).get? k =
      match s.get? k, t.get? k with
      | some a, some b => some (f a b)
      | some a, none => some a
      | none, r => r := by
  have hl : ((s.entries.map fun e => (e.1, ((t.get? e.1).map (f e.2)).getD e.2)).lookup k) =
      (s.get? k).map fun a => ((t.get? k).map (f a)).getD a := by
    exact get?_mapWithKey (fun j a => ((t.get? j).map (f a)).getD a) s k
  show (_ ++ _ : List (String × α)).lookup k = _
  rw [List.lookup_append, hl, lookup_filter_not_mem t.entries (fun j => !s.contains j) k]
  cases hs : s.get? k with
  | some a => cases ht : t.get? k <;> simp
  | none =>
    have : k ∉ s.keys := get?_eq_none_iff.1 hs
    simp [contains, this, get?]

/-- A change of the values passes through a union if it passes through the combination of
values. -/
theorem mapWithKey_unionWith {f : α → α → α} {g : β → β → β} {h : String → α → β}
    (comm : ∀ k a b, h k (f a b) = g (h k a) (h k b)) (s t : Table α) :
    (unionWith f s t).mapWithKey h = unionWith g (s.mapWithKey h) (t.mapWithKey h) := by
  apply ext_get?
  · simp only [keys_mapWithKey, keys_unionWith, contains]
  · intro k
    rw [get?_mapWithKey, get?_unionWith, get?_unionWith, get?_mapWithKey, get?_mapWithKey]
    cases s.get? k <;> cases t.get? k <;> simp [comm]

/-- The order of bracketing unions does not matter if it does not for the combination
of values. -/
theorem unionWith_assoc {f : α → α → α} (hf : ∀ a b c, f (f a b) c = f a (f b c))
    (s t u : Table α) : unionWith f (unionWith f s t) u = unionWith f s (unionWith f t u) := by
  apply ext_get?
  · simp only [keys_unionWith, List.filter_append, List.append_assoc, List.filter_filter]
    congr 2
    refine List.filter_congr fun k _ => ?_
    -- a new key of the third table is in neither of the first two
    by_cases hs : k ∈ s.keys <;> by_cases ht : k ∈ t.keys <;>
      simp [contains, keys_unionWith, hs, ht]
  · intro k
    simp only [get?_unionWith]
    cases s.get? k <;> cases t.get? k <;> cases u.get? k <;> simp [hf]

theorem keys_union (s t : Table α) :
    (s.union t).keys = s.keys ++ t.keys.filter fun k => !s.contains k := keys_unionWith _ s t

/-- The entries of the left table stay as they are; the new ones of the right one follow. -/
theorem entries_union (s t : Table α) :
    (s.union t).entries = s.entries ++ t.entries.filter fun e => !s.contains e.1 := by
  have hleft : (s.entries.map fun e => (e.1, ((t.get? e.1).map fun _ => e.2).getD e.2)) =
      s.entries.map fun e => e :=
    List.map_congr_left fun e _ => by cases t.get? e.1 <;> rfl
  show _ ++ _ = _
  rw [hleft, List.map_id']

/-- What the left table holds wins. -/
theorem get?_union (s t : Table α) (k : String) :
    (s.union t).get? k = (s.get? k).or (t.get? k) := by
  rw [union, get?_unionWith]
  cases s.get? k <;> cases t.get? k <;> rfl

theorem mapWithKey_union (f : String → α → β) (s t : Table α) :
    (s.union t).mapWithKey f = (s.mapWithKey f).union (t.mapWithKey f) :=
  mapWithKey_unionWith (fun _ _ _ => rfl) s t

theorem union_assoc (s t u : Table α) : (s.union t).union u = s.union (t.union u) :=
  unionWith_assoc (fun _ _ _ => rfl) s t u

@[simp] theorem union_empty (s : Table α) : union s ∅ = s := by
  apply Table.ext
  simp [union, unionWith, get?]

@[simp] theorem empty_union (t : Table α) : union ∅ t = t := by
  apply Table.ext
  simp [union, unionWith, contains]

end Table

end ChainApi
