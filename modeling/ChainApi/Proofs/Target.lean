import Mathlib.Data.List.TakeWhile
import ChainApi.Json
import ChainApi.Lists
import ChainApi.Url

/-!
# ChainApi.Proofs.Target

What an address asks for.  A reader of an address cuts it at its first `#` and `?`, splits
the path at its slashes and only then undoes the escapes of each segment.  Segments such as
`..` are not followed.

* `cut` — a text up to a character, and what follows it;
* `octets`, `octets_eq_iff` — the bytes of a segment, which are those of its characters
  unless there is an escape;
* `ofChars_append` — the path of an address that goes on;
* `target` — server, segments, query and fragment of an address;
* `target_append_iff` — segments and a query below an address, read back.
-/

namespace ChainApi

namespace Url

/-! ## cuts -/

/-- A text up to the first occurrence of a character, and what follows it if it occurs. -/
def cut (x : Char) (cs : List Char) : List Char × Option (List Char) :=
  (cs.takeWhile (· ≠ x), (cs.dropWhile (· ≠ x)).tail?)

section Cut

variable {x : Char} {cs xs ys : List Char}

theorem cut_append (h : x ∉ xs) (ys : List Char) :
    cut x (xs ++ ys) = (xs ++ (cut x ys).1, (cut x ys).2) := by
  have hxs : ∀ c ∈ xs, decide (c ≠ x) = true := fun c hc =>
    decide_eq_true fun heq => h (heq ▸ hc)
  rw [cut, List.takeWhile_append_of_pos hxs, List.dropWhile_append_of_pos hxs, cut]

theorem cut_of_not_mem (h : x ∉ cs) : cut x cs = (cs, none) := by
  have hcut := cut_append h []
  rw [List.append_nil] at hcut
  rw [hcut, cut, List.takeWhile_nil, List.dropWhile_nil, List.append_nil]
  rfl

theorem cut_append_cons (h : x ∉ xs) (ys : List Char) :
    cut x (xs ++ x :: ys) = (xs, some ys) := by
  have hx : cut x (x :: ys) = ([], some ys) := by simp [cut]
  rw [cut_append h, hx, List.append_nil]

theorem length_lt_of_cut (h : (cut x cs).2 = some ys) : ys.length < cs.length := by
  by_cases hx : x ∈ cs
  · obtain ⟨front, back, rfl, hfront⟩ := List.eq_append_cons_of_mem hx
    rw [cut_append_cons hfront] at h
    obtain rfl := Option.some.inj h
    simp only [List.length_append, List.length_cons]
    omega
  · rw [cut_of_not_mem hx] at h
    cases h

/-- What is cut off is the same behind another text exactly if the character does not occur
in that one. -/
theorem cut_append_snd_iff : (cut x (xs ++ ys)).2 = (cut x ys).2 ↔ x ∉ xs := by
  constructor
  · intro h hmem
    obtain ⟨front, back, rfl, hfront⟩ := List.eq_append_cons_of_mem hmem
    rw [List.append_assoc, List.cons_append, cut_append_cons hfront] at h
    have hlength := length_lt_of_cut h.symm
    rw [List.length_append] at hlength
    omega
  · intro h
    rw [cut_append h]

theorem cut_snd_eq_none_iff : (cut x cs).2 = none ↔ x ∉ cs := by
  have h : (cut x (cs ++ [])).2 = (cut x []).2 ↔ x ∉ cs := cut_append_snd_iff
  rwa [List.append_nil] at h

end Cut

/-! ## escapes -/

/-- The escaped byte at the front of a text, and what follows it. -/
def escape? : List Char → Option (UInt8 × List Char)
  | '%' :: a :: b :: cs => do
    let high ← Json.hexDigit? a
    let low ← Json.hexDigit? b
    return (UInt8.ofNat (high * 16 + low), cs)
  | _ => none

theorem exists_of_escape? {cs rest : List Char} {b : UInt8} (h : escape? cs = some (b, rest)) :
    ∃ xs, xs.length = 3 ∧ cs = xs ++ rest := by
  unfold escape? at h
  split at h
  · next first second tail =>
    simp only [Option.bind_eq_bind, Option.bind_eq_some_iff] at h
    obtain ⟨high, -, low, -, h⟩ := h
    cases h
    exact ⟨['%', first, second], rfl, rfl⟩
  · cases h

/-- Does a text hold an escape? -/
def hasEscape : List Char → Bool
  | [] => false
  | c :: cs => (escape? (c :: cs)).isSome || hasEscape cs

/-- The bytes of a text in which escapes stand for the bytes they name. -/
def octets (cs : List Char) : List UInt8 :=
  match front : escape? cs with
  | some (b, rest) =>
    have : rest.length < cs.length := by
      obtain ⟨xs, hxs, rfl⟩ := exists_of_escape? front
      rw [List.length_append]
      omega
    b :: octets rest
  | none =>
    match cs with
    | [] => []
    | c :: cs => String.utf8EncodeChar c ++ octets cs
termination_by cs.length

/-- The bytes of a text as it stands. -/
def utf8 (cs : List Char) : List UInt8 := cs.flatMap String.utf8EncodeChar

section Octets

variable {cs ds : List Char} {c : Char}

theorem utf8_injective (h : utf8 cs = utf8 ds) : cs = ds := by
  have htext : ∀ s, (utf8 s).toByteArray = (String.ofList s).toByteArray := fun s =>
    (String.toByteArray_ofList ..).symm
  have heq := String.toByteArray_inj.1 ((htext cs).symm.trans ((congrArg _ h).trans (htext ds)))
  exact String.ofList_inj.1 heq

theorem length_le_utf8 (cs : List Char) : cs.length ≤ (utf8 cs).length := by
  induction cs with
  | nil => exact Nat.zero_le _
  | cons c cs ih =>
    have hc := c.utf8Size_pos
    rw [utf8, List.flatMap_cons, List.length_append, String.length_utf8EncodeChar,
      List.length_cons]
    rw [utf8] at ih
    omega

theorem octets_of_escape? {b : UInt8} (h : escape? cs = some (b, ds)) :
    octets cs = b :: octets ds := by
  rw [octets]
  split
  · next found =>
    rw [h] at found
    cases found
    rfl
  · next missing =>
    rw [h] at missing
    cases missing

theorem octets_cons (h : escape? (c :: cs) = none) :
    octets (c :: cs) = String.utf8EncodeChar c ++ octets cs := by
  rw [octets]
  split
  · next found =>
    rw [h] at found
    cases found
  · rfl

/-- An escape takes three bytes of a text. -/
theorem length_utf8_of_escape? {b : UInt8} (h : escape? cs = some (b, ds)) :
    (utf8 ds).length + 3 ≤ (utf8 cs).length := by
  obtain ⟨xs, hxs, rfl⟩ := exists_of_escape? h
  have := length_le_utf8 xs
  rw [utf8, utf8, List.flatMap_append, List.length_append]
  rw [utf8] at this
  omega

theorem length_octets_le : (octets cs).length ≤ (utf8 cs).length := by
  fun_induction octets cs with
  | case1 cs b rest front _ ih =>
    have := length_utf8_of_escape? front
    rw [List.length_cons]
    omega
  | case2 => exact Nat.zero_le _
  | case3 c cs _ ih =>
    rw [utf8, List.flatMap_cons, List.length_append, List.length_append]
    exact Nat.add_le_add_left ih _

/-- An escape is longer than the byte that it stands for. -/
theorem length_octets_lt (h : hasEscape cs = true) :
    (octets cs).length < (utf8 cs).length := by
  induction cs with
  | nil => cases h
  | cons c cs ih =>
    cases front : escape? (c :: cs) with
    | none =>
      rw [hasEscape, front, Option.isSome_none, Bool.false_or] at h
      rw [octets_cons front, utf8, List.flatMap_cons, List.length_append, List.length_append]
      exact Nat.add_lt_add_left (ih h) _
    | some found =>
      have hescape := length_utf8_of_escape? front
      have hrest : (octets found.2).length ≤ (utf8 found.2).length := length_octets_le
      rw [octets_of_escape? front, List.length_cons]
      omega

/-- The bytes of a text are those of its characters exactly if there is no escape. -/
theorem octets_eq_iff : octets cs = utf8 cs ↔ hasEscape cs = false := by
  constructor
  · intro h
    by_contra hescape
    exact absurd (length_octets_lt (by simpa using hescape)) (by rw [h]; exact Nat.lt_irrefl _)
  · intro h
    induction cs with
    | nil => simp [octets, escape?, utf8]
    | cons c cs ih =>
      rw [hasEscape, Bool.or_eq_false_iff, Option.isSome_eq_false_iff, Option.isNone_iff_eq_none]
        at h
      rw [octets_cons h.1, ih h.2]
      rfl

end Octets

/-! ## the path of an address -/

section Append

variable {cs ys rest scheme : List Char}

/-- A scheme begins with a letter and holds only the characters of schemes; it may be
missing. -/
def IsScheme (scheme : List Char) : Prop :=
  (∀ c ∈ scheme, isSchemeChar c = true) ∧ ∀ c ∈ scheme.head?, c.isAlpha = true

theorem splitScheme_colon (h : IsScheme scheme) (rest : List Char) :
    splitScheme (scheme ++ ':' :: rest) = (scheme, rest) := by
  have hcolon : ¬ isSchemeChar ':' = true := by decide
  cases scheme with
  | nil => rfl
  | cons c scheme =>
    have hletter : ((c :: scheme ++ ':' :: rest).head?.any Char.isAlpha) = true := h.2 c rfl
    have hrun : (c :: scheme ++ ':' :: rest).takeWhile isSchemeChar = c :: scheme := by
      rw [List.takeWhile_append_of_pos h.1, List.takeWhile_cons_of_neg hcolon, List.append_nil]
    rw [splitScheme, if_pos hletter, hrun, List.drop_left]
    rfl

theorem isScheme_takeWhile (h : cs.head?.any Char.isAlpha = true) :
    IsScheme (cs.takeWhile isSchemeChar) := by
  refine ⟨fun c hc => List.mem_takeWhile_imp hc, fun c hc => ?_⟩
  cases cs with
  | nil => cases hc
  | cons d cs =>
    rw [List.takeWhile_cons] at hc
    split at hc
    · cases hc
      exact h
    · cases hc

theorem splitScheme_eq (h : splitScheme cs = (scheme, rest)) :
    IsScheme scheme ∧ cs = scheme ++ ':' :: rest ∨ scheme = [] ∧ cs = rest := by
  unfold splitScheme at h
  generalize hrun : (if cs.head?.any Char.isAlpha then cs.takeWhile isSchemeChar else []) = run
    at h
  have hscheme : IsScheme run ∧ run <+: cs := by
    subst hrun
    split
    · next hletter => exact ⟨isScheme_takeWhile hletter, List.takeWhile_prefix _⟩
    · exact ⟨⟨nofun, nofun⟩, List.nil_prefix⟩
  dsimp only at h
  split at h
  · next back hback =>
    cases h
    exact .inl ⟨hscheme.1, by rw [← hback]; exact (List.prefix_iff_eq_append.1 hscheme.2).symm⟩
  · cases h
    exact .inr ⟨rfl, rfl⟩

/-- A scheme is found where it was when the address goes on. -/
theorem splitScheme_append (h : splitScheme cs = (scheme, '/' :: rest)) (ys : List Char) :
    splitScheme (cs ++ ys) = (scheme, '/' :: (rest ++ ys)) := by
  obtain ⟨hscheme, rfl⟩ | ⟨rfl, rfl⟩ := splitScheme_eq h
  · rw [List.append_assoc, List.cons_append, splitScheme_colon hscheme]
    rfl
  · rfl

/-- May a character stand in front of the path of an address? -/
def isAuthorityChar (c : Char) : Bool := c != '/' && c != '?' && c != '#'

theorem ofChars_of_authority (h : splitScheme cs = (scheme, '/' :: '/' :: rest))
    (hquery : '?' ∉ rest) (hfragment : '#' ∉ rest) :
    ofChars cs =
      Url.withAuthority { scheme, path := rest.drop (rest.takeWhile isAuthorityChar).length }
        (rest.takeWhile isAuthorityChar) := by
  have hpath : ∀ xs ⊆ rest, xs.takeWhile (fun c => c != '?' && c != '#') = xs := by
    intro xs hxs
    refine List.takeWhile_eq_self_iff.2 fun c hc => ?_
    have hq : c ≠ '?' := fun heq => hquery (heq ▸ hxs hc)
    have hf : c ≠ '#' := fun heq => hfragment (heq ▸ hxs hc)
    simp [hq, hf]
  have hsplit : ofChars cs = Url.withAuthority
      { scheme
        path := (rest.drop (rest.takeWhile isAuthorityChar).length).takeWhile
          fun c => c != '?' && c != '#' }
      (rest.takeWhile isAuthorityChar) := by
    rw [ofChars, h]
    rfl
  rw [hsplit, hpath _ (List.drop_subset _ _)]

theorem exists_authority (h : (ofChars cs).host ≠ []) :
    ∃ scheme rest, splitScheme cs = (scheme, '/' :: '/' :: rest) := by
  rw [ofChars] at h
  split at h
  · next hsplit =>
    split at h
    · exact ⟨_, _, hsplit⟩
    · exact absurd rfl h

theorem splitScheme_suffix (h : splitScheme cs = (scheme, rest)) : rest <:+ cs := by
  obtain ⟨-, rfl⟩ | ⟨-, rfl⟩ := splitScheme_eq h
  · exact (List.suffix_cons _ _).trans (List.suffix_append _ _)
  · exact List.suffix_rfl

/-- The path of an address stands at its end. -/
theorem ofChars_append (host : (ofChars cs).host ≠ []) (hquery : '?' ∉ cs ++ ys)
    (hfragment : '#' ∉ cs ++ ys) (hys : ∀ c ∈ ys.head?, c = '/') :
    ofChars (cs ++ ys) = { ofChars cs with path := (ofChars cs).path ++ ys } := by
  obtain ⟨scheme, rest, hcs⟩ := exists_authority host
  have hlong : splitScheme (cs ++ ys) = (scheme, '/' :: '/' :: (rest ++ ys)) :=
    splitScheme_append hcs ys
  have hback : rest ++ ys <:+ cs ++ ys :=
    ((List.suffix_cons _ _).trans (List.suffix_cons _ _)).trans (splitScheme_suffix hlong)
  have hmark : ∀ c ∉ cs ++ ys, c ∉ rest ++ ys ∧ c ∉ rest := fun c hc =>
    ⟨fun h => hc (hback.subset h), fun h => hc (hback.subset (List.mem_append_left _ h))⟩
  have hstop : ∀ c ∈ ys.head?, isAuthorityChar c = false := by
    intro c hc
    rw [hys c hc]
    rfl
  have hlength : (rest.takeWhile isAuthorityChar).length ≤ rest.length :=
    (List.takeWhile_prefix _).length_le
  rw [ofChars_of_authority hlong (hmark _ hquery).1 (hmark _ hfragment).1,
    ofChars_of_authority hcs (hmark _ hquery).2 (hmark _ hfragment).2,
    takeWhile_append_of_head hstop, List.drop_append_of_le_length hlength]
  rfl

end Append

/-! ## addresses -/

/-- What an address asks for. -/
structure Target where
  /-- The address without its path, its query and its fragment. -/
  server : Url
  segments : List (List UInt8)
  query : Option (List Char)
  fragment : Option (List Char)
  deriving DecidableEq

/-- What an address asks for: it is cut at `#` and at `?`, and the path is split at its
slashes before escapes are undone. -/
def target (address : String) : Target :=
  let (front, fragment) := cut '#' address.toList
  let (front, query) := cut '?' front
  let url := ofChars front
  { server := { url with path := [] }
    segments := (url.path.splitOn '/').map octets
    query
    fragment }

/-- Has an address a host, but neither a query nor a fragment? -/
def IsBase (address : String) : Prop :=
  '?' ∉ address.toList ∧ '#' ∉ address.toList ∧ (ofChars address.toList).host ≠ []

instance : DecidablePred IsBase := fun address =>
  inferInstanceAs (Decidable ('?' ∉ address.toList ∧ '#' ∉ address.toList ∧ _))

/-! ## segments below an address -/

/-- Does a text make up one segment, which stands for its own characters? -/
def IsSegment (cs : List Char) : Prop :=
  '/' ∉ cs ∧ '?' ∉ cs ∧ '#' ∉ cs ∧ hasEscape cs = false

instance : DecidablePred IsSegment := fun cs =>
  inferInstanceAs (Decidable ('/' ∉ cs ∧ '?' ∉ cs ∧ '#' ∉ cs ∧ hasEscape cs = false))

/-- Segments in a path, each behind a slash. -/
def pathOf (segments : List (List Char)) : List Char := segments.flatMap ('/' :: ·)

section Segments

variable {cs : List Char} {segments : List (List Char)} {base path query : String}

theorem not_mem_pathOf {c : Char} (hc : c ≠ '/') :
    c ∉ pathOf segments ↔ ∀ s ∈ segments, c ∉ s := by
  simp [pathOf, List.mem_flatMap, hc]

theorem splitOn_append_pathOf (cs : List Char) (segments : List (List Char)) :
    (cs ++ pathOf segments).splitOn '/' =
      cs.splitOn '/' ++ segments.flatMap (·.splitOn '/') := by
  induction segments generalizing cs with
  | nil => rw [pathOf, List.flatMap_nil, List.flatMap_nil, List.append_nil, List.append_nil]
  | cons s segments ih =>
    calc
      (cs ++ pathOf (s :: segments)).splitOn '/'
        = (cs ++ '/' :: (s ++ pathOf segments)).splitOn '/' := rfl
      _ = cs.splitOn '/' ++ (s.splitOn '/' ++ segments.flatMap (·.splitOn '/')) := by
        rw [List.splitOn_append_cons_self, ih]
      _ = cs.splitOn '/' ++ (s :: segments).flatMap (·.splitOn '/') := by
        rw [List.flatMap_cons]

/-- Pieces with their bytes are a single segment. -/
theorem map_octets_splitOn_iff :
    (cs.splitOn '/').map octets = [utf8 cs] ↔ '/' ∉ cs ∧ hasEscape cs = false := by
  constructor
  · intro h
    have hslash : '/' ∉ cs := by
      intro hmem
      obtain ⟨front, back, rfl⟩ := List.append_of_mem hmem
      have hlength := congrArg List.length h
      rw [List.splitOn_append_cons_self, List.map_append, List.length_append, List.length_map,
        List.length_map, List.length_singleton] at hlength
      have hfront := List.length_pos_iff.2 (List.splitOn_ne_nil '/' front)
      have hback := List.length_pos_iff.2 (List.splitOn_ne_nil '/' back)
      omega
    rw [List.splitOn_eq_singleton hslash, List.map_singleton, List.singleton_inj] at h
    exact ⟨hslash, octets_eq_iff.1 h⟩
  · rintro ⟨hslash, hescape⟩
    rw [List.splitOn_eq_singleton hslash, List.map_singleton, octets_eq_iff.2 hescape]

section Runs

variable {f : List Char → List (List UInt8)} {g : List Char → List UInt8}

theorem length_le_flatMap (hf : ∀ s, f s ≠ []) (segments : List (List Char)) :
    segments.length ≤ (segments.flatMap f).length := by
  induction segments with
  | nil => exact Nat.zero_le _
  | cons s segments ih =>
    have := List.length_pos_iff.2 (hf s)
    rw [List.flatMap_cons, List.length_append, List.length_cons]
    omega

/-- Runs that are not empty are single members if together they are as many as the runs. -/
theorem flatMap_eq_map_iff (hf : ∀ s, f s ≠ []) :
    segments.flatMap f = segments.map g ↔ ∀ s ∈ segments, f s = [g s] := by
  induction segments with
  | nil => simp
  | cons s segments ih =>
    rw [List.forall_mem_cons, List.flatMap_cons, List.map_cons]
    constructor
    · intro h
      obtain ⟨first, others, hs⟩ := List.exists_cons_of_ne_nil (hf s)
      rw [hs, List.cons_append] at h
      obtain ⟨rfl, hrest⟩ := List.cons.inj h
      -- the other members of this run would make too many of the rest
      have hlength := congrArg List.length hrest
      rw [List.length_append, List.length_map] at hlength
      have hmany := length_le_flatMap hf segments
      obtain rfl : others = [] := List.length_eq_zero_iff.1 (by omega)
      exact ⟨hs, ih.1 hrest⟩
    · rintro ⟨hs, hrest⟩
      rw [hs, ih.2 hrest, List.singleton_append]

end Runs

theorem target_base (h : IsBase base) :
    target base =
      { server := { ofChars base.toList with path := [] }
        segments := ((ofChars base.toList).path.splitOn '/').map octets
        query := none
        fragment := none } := by
  rw [target, cut_of_not_mem h.2.1]
  dsimp only
  rw [cut_of_not_mem h.1]

theorem toList_address (hpath : path.toList = pathOf segments) :
    (base ++ path ++ query).toList = base.toList ++ pathOf segments ++ query.toList := by
  rw [String.toList_append, String.toList_append, hpath]

theorem cut_query (h : ∀ c ∈ query.toList.head?, c = '?') : (cut '?' query.toList).1 = [] := by
  cases hchars : query.toList with
  | nil => rfl
  | cons c cs =>
    rw [h c (by rw [hchars]; rfl)]
    exact congrArg Prod.fst (cut_append_cons (List.not_mem_nil : '?' ∉ []) cs)

/-- A path without `?` and `#` is split at its slashes. -/
theorem target_append (h : IsBase base) (hpath : path.toList = pathOf segments)
    (hquery : ∀ c ∈ query.toList.head?, c = '?') (hfragment : '#' ∉ query.toList)
    (hmarks : '?' ∉ pathOf segments ∧ '#' ∉ pathOf segments) :
    target (base ++ path ++ query) =
      { target base with
        segments := (target base).segments ++ segments.flatMap fun s => (s.splitOn '/').map octets
        query := (cut '?' query.toList).2 } := by
  have hsign : '?' ∉ base.toList ++ pathOf segments := fun hmem =>
    (List.mem_append.1 hmem).elim h.1 hmarks.1
  have hhash : '#' ∉ base.toList ++ pathOf segments := fun hmem =>
    (List.mem_append.1 hmem).elim h.2.1 hmarks.2
  have hwhole : '#' ∉ (base ++ path ++ query).toList := by
    rw [toList_address hpath]
    exact fun hmem => (List.mem_append.1 hmem).elim hhash hfragment
  have hslash : ∀ c ∈ (pathOf segments).head?, c = '/' := by
    cases segments with
    | nil => nofun
    | cons s segments =>
      intro c hc
      exact (Option.some.inj hc).symm
  rw [target, cut_of_not_mem hwhole]
  dsimp only
  rw [toList_address hpath, cut_append hsign, cut_query hquery, List.append_nil,
    ofChars_append h.2.2 hsign hhash hslash, splitOn_append_pathOf, List.map_append,
    List.map_flatMap, target_base h]

/-- Segments below an address are read back exactly if each of them is one. -/
theorem target_append_iff (h : IsBase base) (hpath : path.toList = pathOf segments)
    (hquery : ∀ c ∈ query.toList.head?, c = '?') (hfragment : '#' ∉ query.toList) :
    target (base ++ path ++ query) =
      { target base with
        segments := (target base).segments ++ segments.map utf8
        query := (cut '?' query.toList).2 } ↔
    ∀ s ∈ segments, IsSegment s := by
  have hpieces : ∀ s : List Char, (s.splitOn '/').map octets ≠ [] := fun s =>
    fun hnil => List.splitOn_ne_nil '/' s (List.map_eq_nil_iff.1 hnil)
  have hsigns : '?' ∉ pathOf segments ↔ ∀ s ∈ segments, '?' ∉ s := not_mem_pathOf (by decide)
  have hhashes : '#' ∉ pathOf segments ↔ ∀ s ∈ segments, '#' ∉ s := not_mem_pathOf (by decide)
  constructor
  · intro heq
    have hwhole : '#' ∉ (base ++ path ++ query).toList := by
      have hnone : (target (base ++ path ++ query)).fragment = none := by
        rw [heq, target_base h]
      exact cut_snd_eq_none_iff.1 hnone
    have hsign : '?' ∉ base.toList ++ pathOf segments := by
      have hcut : (cut '?' (cut '#' (base ++ path ++ query).toList).1).2 =
        (cut '?' query.toList).2 := congrArg Target.query heq
      rwa [cut_of_not_mem hwhole, toList_address hpath, cut_append_snd_iff] at hcut
    rw [toList_address hpath, List.mem_append, List.mem_append, not_or, not_or] at hwhole
    replace hsign : '?' ∉ pathOf segments := fun hmem => hsign (List.mem_append_right _ hmem)
    have hhash : '#' ∉ pathOf segments := hwhole.1.2
    rw [target_append h hpath hquery hfragment ⟨hsign, hhash⟩] at heq
    have hsegments := List.append_cancel_left (congrArg Target.segments heq)
    rw [flatMap_eq_map_iff hpieces] at hsegments
    intro s hs
    obtain ⟨hslash, hescape⟩ := map_octets_splitOn_iff.1 (hsegments s hs)
    exact ⟨hslash, hsigns.1 hsign s hs, hhashes.1 hhash s hs, hescape⟩
  · intro hplain
    have hmarks : '?' ∉ pathOf segments ∧ '#' ∉ pathOf segments :=
      ⟨hsigns.2 fun s hs => (hplain s hs).2.1, hhashes.2 fun s hs => (hplain s hs).2.2.1⟩
    have hsegments := (flatMap_eq_map_iff hpieces).2 fun s hs =>
      map_octets_splitOn_iff.2 ⟨(hplain s hs).1, (hplain s hs).2.2.2⟩
    rw [target_append h hpath hquery hfragment hmarks, hsegments]

end Segments

end Url

end ChainApi
