import Mathlib.Data.List.TakeWhile
import Mathlib.Data.List.Perm.Basic
import ChainApi.Parameters

/-!
# ChainApi.Proofs.Placeholders

The template of an endpoint, seen as one substitution.  The placeholders of a path are
replaced one parameter after the other, so that each step reads what the steps before it
have inserted; `fill` replaces all of them in a single scan of the path.  The two agree as
long as no parameter is named like the type of a parameter in front of it.

* `placeholderAt?`, `fill` — the scan;
* `replaceAll_fill` — one parameter, after a scan;
* `foldl_substitute` — all parameters, by induction over them;
* `endpointTemplate_eq_fill` — a template under names that are no types;
* `endpointTemplate_perm_iff` — when the order of the parameters does not count.
-/

namespace ChainApi

/-! ## the scan -/

/-- Is a character no brace? -/
def isPlain (c : Char) : Bool := c ≠ '{' && c ≠ '}'

/-- A name without braces. -/
def BraceFree (name : String) : Prop := ∀ c ∈ name.toList, isPlain c

instance : DecidablePred BraceFree := fun name =>
  decidable_of_iff (name.toList.all isPlain) List.all_eq_true

/-- The placeholder at the front of a text: its name, and what follows. -/
def placeholderAt? : List Char → Option (String × List Char)
  | '{' :: cs =>
    match cs.dropWhile isPlain with
    | '}' :: rest => some (String.ofList (cs.takeWhile isPlain), rest)
    | _ => none
  | _ => none

theorem placeholder_append (name : String) (rest : List Char) :
    placeholder name ++ rest = '{' :: (name.toList ++ '}' :: rest) := by
  simp [placeholder]

theorem placeholderAt?_eq_some {cs rest : List Char} {name : String} :
    placeholderAt? cs = some (name, rest) ↔ BraceFree name ∧ cs = placeholder name ++ rest := by
  constructor
  · intro h
    unfold placeholderAt? at h
    split at h
    · next cs =>
      split at h
      · next tail hdrop =>
        obtain ⟨rfl, rfl⟩ : String.ofList (cs.takeWhile isPlain) = name ∧ tail = rest := by
          simpa using h
        have hcs : cs.takeWhile isPlain ++ '}' :: tail = cs := by
          rw [← hdrop, List.takeWhile_append_dropWhile]
        refine ⟨fun c hc => List.mem_takeWhile_imp (String.toList_ofList ▸ hc), ?_⟩
        rw [placeholder_append, String.toList_ofList, hcs]
      · cases h
    · cases h
  · rintro ⟨hname, rfl⟩
    have hstop : ¬ isPlain '}' = true := by decide
    have htake : (name.toList ++ '}' :: rest).takeWhile isPlain = name.toList := by
      rw [List.takeWhile_append_of_pos hname, List.takeWhile_cons_of_neg hstop, List.append_nil]
    have hdrop : (name.toList ++ '}' :: rest).dropWhile isPlain = '}' :: rest := by
      rw [List.dropWhile_append_of_pos hname, List.dropWhile_cons_of_neg hstop]
    rw [placeholder_append, placeholderAt?, hdrop, htake, String.ofList_toList]
    rfl

theorem length_lt_of_placeholderAt? {cs rest : List Char} {name : String}
    (h : placeholderAt? cs = some (name, rest)) : rest.length < cs.length := by
  rw [(placeholderAt?_eq_some.1 h).2, placeholder_append]
  simp only [List.length_cons, List.length_append]
  omega

/-- A placeholder begins with only one placeholder of a name without braces. -/
theorem eq_of_placeholder_at_front {m n : String} {cs : List Char} (hm : BraceFree m)
    (hn : BraceFree n) (h : placeholder n <+: placeholder m ++ cs) : n = m := by
  obtain ⟨rest, h⟩ := h
  have hfront : some (n, rest) = some (m, cs) := by
    rw [← placeholderAt?_eq_some.2 ⟨hn, rfl⟩, h, placeholderAt?_eq_some.2 ⟨hm, rfl⟩]
  exact congrArg Prod.fst (Option.some.inj hfront)

/-- What stands in a template for a placeholder; without a type it stays. -/
def filler (typeOf : String → Option String) (name : String) : List Char :=
  ((typeOf name).map typePlaceholder).getD (placeholder name)

/-- Replace the placeholders of a text by those of types, in one scan from left to
right. -/
def fill (typeOf : String → Option String) (cs : List Char) : List Char :=
  match front : placeholderAt? cs with
  | some (name, rest) =>
    have := length_lt_of_placeholderAt? front
    filler typeOf name ++ fill typeOf rest
  | none =>
    match cs with
    | [] => []
    | c :: cs => c :: fill typeOf cs
termination_by cs.length

section Scan

variable {typeOf : String → Option String} {cs : List Char} {c : Char} {name : String}

theorem fill_nil : fill typeOf [] = [] := by
  rw [fill]
  rfl

theorem fill_placeholder (h : BraceFree name) :
    fill typeOf (placeholder name ++ cs) = filler typeOf name ++ fill typeOf cs := by
  have hfront := placeholderAt?_eq_some.2 ⟨h, (rfl : _ = placeholder name ++ cs)⟩
  rw [fill]
  split
  · next found =>
    rw [hfront] at found
    cases found
    rfl
  · next missing =>
    rw [hfront] at missing
    cases missing

theorem fill_cons (h : placeholderAt? (c :: cs) = none) :
    fill typeOf (c :: cs) = c :: fill typeOf cs := by
  rw [fill]
  split
  · next found =>
    rw [h] at found
    cases found
  · rfl

/-- Without types nothing changes. -/
theorem fill_none : fill (fun _ => none) cs = cs := by
  fun_induction fill (fun _ => none) cs with
  | case1 cs name rest front _ ih => rw [ih, (placeholderAt?_eq_some.1 front).2]; rfl
  | case2 => rfl
  | case3 c cs _ ih => rw [ih]

/-- A character of a filled text that is no opening brace comes from the text, or opens
the placeholder of a type. -/
theorem fill_eq_cons {s : List Char} (hc : c ≠ '{') (h : fill typeOf cs = c :: s) :
    (∃ tail, cs = c :: tail ∧ s = fill typeOf tail) ∨ c = '$' ∧ '{' ∈ s.head? := by
  fun_cases fill typeOf cs with
  | case1 cs name rest front =>
    obtain ⟨hname, rfl⟩ := placeholderAt?_eq_some.1 front
    rw [fill_placeholder hname, filler] at h
    cases htype : typeOf name with
    | none =>
      rw [htype, Option.map_none, Option.getD_none, placeholder_append] at h
      exact absurd (List.cons.inj h).1.symm hc
    | some type =>
      rw [htype, Option.map_some, Option.getD_some, typePlaceholder] at h
      obtain ⟨rfl, rfl⟩ := List.cons.inj h
      exact .inr ⟨rfl, rfl⟩
  | case2 => cases fill_nil.symm.trans h
  | case3 d tail missing =>
    rw [fill_cons missing] at h
    obtain ⟨rfl, rfl⟩ := List.cons.inj h
    exact .inl ⟨tail, rfl, rfl⟩

/-- A name that is closed in a filled text is closed in the text. -/
theorem closed_of_fill {name s : List Char} (hname : ∀ c ∈ name, isPlain c)
    (h : fill typeOf cs = name ++ '}' :: s) : ∃ tail, cs = name ++ '}' :: tail := by
  induction name generalizing cs with
  | nil =>
    obtain ⟨tail, rfl, -⟩ | ⟨hc, -⟩ := fill_eq_cons (by decide) h
    · exact ⟨tail, rfl⟩
    · cases hc
  | cons c name ih =>
    rw [List.forall_mem_cons] at hname
    have hc : c ≠ '{' := by
      rintro rfl
      exact absurd hname.1 (by decide)
    obtain ⟨tail, rfl, htail⟩ | ⟨-, hbrace⟩ := fill_eq_cons hc h
    · obtain ⟨rest, rfl⟩ := ih hname.2 htail.symm
      exact ⟨rest, rfl⟩
    · -- the placeholder of a type has a brace where the name goes on or is closed
      cases name with
      | nil => cases hbrace
      | cons d name =>
        obtain rfl : d = '{' := Option.some.inj hbrace
        exact absurd (hname.2 '{' List.mem_cons_self) (by decide)

end Scan

/-! ## one parameter -/

section Step

variable {typeOf : String → Option String} {cs : List Char} {m n type : String}

/-- A placeholder of another name is passed over. -/
theorem replaceAll_placeholder_of_ne (hm : BraceFree m) (hn : BraceFree n) (h : n ≠ m)
    (new cs : List Char) :
    Text.replaceAll (placeholder n) new (placeholder m ++ cs) =
      placeholder m ++ Text.replaceAll (placeholder n) new cs := by
  have hfront : ¬ placeholder n <+: '{' :: (m.toList ++ '}' :: cs) := by
    rw [← placeholder_append]
    exact fun hp => h (eq_of_placeholder_at_front hm hn hp)
  have hopen : '{' ∉ m.toList ++ ['}'] := by
    intro hmem
    rcases List.mem_append.1 hmem with hmem | hmem
    · exact absurd (hm _ hmem) (by decide)
    · exact absurd hmem (by decide)
  calc
    Text.replaceAll (placeholder n) new (placeholder m ++ cs)
      = '{' :: Text.replaceAll (placeholder n) new (m.toList ++ ['}'] ++ cs) := by
        rw [placeholder_append, Text.replaceAll_cons_of_not_at_front hfront, List.append_assoc,
          List.singleton_append]
    _ = placeholder m ++ Text.replaceAll (placeholder n) new cs := by
        rw [placeholder, List.cons_append, Text.replaceAll_append_of_not_mem hopen,
          placeholder_append, List.append_assoc, List.singleton_append]

/-- A table of types, with one more behind it. -/
def orType (typeOf : String → Option String) (name type : String) : String → Option String :=
  fun m => (typeOf m).or (if name = m then some type else none)

/-- No name is given the type `name`, and no type has a brace. -/
def Avoids (typeOf : String → Option String) (name : String) : Prop :=
  ∀ m, ∀ type ∈ typeOf m, BraceFree type ∧ name ≠ type

theorem replaceAll_filler (hm : BraceFree m) (hn : BraceFree n) (h : Avoids typeOf n) :
    Text.replaceAll (placeholder n) (typePlaceholder type) (filler typeOf m ++ cs) =
      filler (orType typeOf n type) m ++
        Text.replaceAll (placeholder n) (typePlaceholder type) cs := by
  cases htype : typeOf m with
  | some t =>
    obtain ⟨ht, hne⟩ := h m t htype
    have hdollar : ¬ placeholder n <+: '$' :: (placeholder t ++ cs) :=
      fun hp => absurd (List.cons_prefix_cons.1 hp).1 (by decide)
    have hfiller : ∀ s, filler typeOf m ++ s = '$' :: (placeholder t ++ s) := by
      intro s
      rw [filler, htype]
      rfl
    have hafter : filler (orType typeOf n type) m = filler typeOf m := by
      rw [filler, filler, orType, htype, Option.some_or]
    rw [hafter, hfiller, hfiller, Text.replaceAll_cons_of_not_at_front hdollar,
      replaceAll_placeholder_of_ne ht hn hne]
  | none =>
    have hfiller : filler typeOf m = placeholder m := by rw [filler, htype]; rfl
    by_cases hname : n = m
    · subst hname
      have hafter : filler (orType typeOf n type) n = typePlaceholder type := by
        rw [filler, orType, htype, if_pos rfl]
        rfl
      rw [hfiller, hafter, Text.replaceAll_append_self (by simp [placeholder])]
    · have hafter : filler (orType typeOf n type) m = placeholder m := by
        rw [filler, orType, htype, if_neg hname]
        rfl
      rw [hfiller, hafter, replaceAll_placeholder_of_ne hm hn hname]

/-- Replacing one more name after a scan is a scan with one more type. -/
theorem replaceAll_fill (hn : BraceFree n) (h : Avoids typeOf n) :
    Text.replaceAll (placeholder n) (typePlaceholder type) (fill typeOf cs) =
      fill (orType typeOf n type) cs := by
  fun_induction fill typeOf cs with
  | case1 cs m rest front _ ih =>
    obtain ⟨hm, rfl⟩ := placeholderAt?_eq_some.1 front
    rw [replaceAll_filler hm hn h, ih, fill_placeholder hm]
  | case2 => rw [Text.replaceAll_nil, fill_nil]
  | case3 c cs missing ih =>
    -- a placeholder in the filled text would be one of the text
    have hfront : ¬ placeholder n <+: c :: fill typeOf cs := by
      rintro ⟨s, hs⟩
      rw [placeholder_append] at hs
      obtain ⟨rfl, hfill⟩ := List.cons.inj hs
      obtain ⟨rest, rfl⟩ := closed_of_fill hn hfill.symm
      rw [← placeholder_append, placeholderAt?_eq_some.2 ⟨hn, rfl⟩] at missing
      cases missing
    rw [Text.replaceAll_cons_of_not_at_front hfront, ih, fill_cons missing]

end Step

/-! ## all parameters -/

/-- The name whose placeholder a parameter replaces. -/
def Parameter.placeholder? (p : Parameter) : Option String :=
  if p.location = some "path" then p.name else none

/-- The type by which a parameter replaces the placeholder of a name. -/
def Parameter.typeFor (p : Parameter) (name : String) : Option String :=
  if p.placeholder? = some name then some p.primitiveType else none

/-- The type that replaces the placeholder of a name. -/
def placeholderType (params : List Parameter) (name : String) : Option String :=
  (params.find? (·.placeholder? = some name)).map Parameter.primitiveType

/-- Would the second of two parameters replace what the first one has inserted? -/
def Parameter.Clashes (p q : Parameter) : Prop :=
  p.placeholder?.isSome ∧ q.placeholder? = some p.primitiveType

instance (p q : Parameter) : Decidable (p.Clashes q) :=
  inferInstanceAs (Decidable (_ ∧ _))

section Run

variable {typeOf : String → Option String} {cs : List Char} {params : List Parameter}
  {p : Parameter} {name : String}

theorem Parameter.substitute_of_some (h : p.placeholder? = some name) :
    Parameter.substitute cs p =
      Text.replaceAll (placeholder name) (typePlaceholder p.primitiveType) cs := by
  unfold Parameter.placeholder? at h
  split at h
  · next hpath =>
    rw [Parameter.substitute, h]
    exact if_pos hpath
  · cases h

theorem Parameter.substitute_of_none (h : p.placeholder? = none) :
    Parameter.substitute cs p = cs := by
  rw [Parameter.substitute]
  split
  · next name hname =>
    split
    · next hpath => rw [Parameter.placeholder?, if_pos hpath, hname] at h; cases h
    · rfl
  · rfl

theorem Parameter.primitiveType_braceFree (p : Parameter) : BraceFree p.primitiveType := by
  rcases p.primitiveType_eq_or with h | h <;> rw [h] <;> decide

theorem placeholderType_cons (p : Parameter) (params : List Parameter) (m : String) :
    placeholderType (p :: params) m = (p.typeFor m).or (placeholderType params m) := by
  by_cases hp : p.placeholder? = some m
  · rw [placeholderType, List.find?_cons_of_pos (by simpa using hp), Parameter.typeFor, if_pos hp]
    rfl
  · rw [placeholderType, List.find?_cons_of_neg (by simpa using hp), Parameter.typeFor, if_neg hp]
    rfl

/-- All parameters after a scan are a scan with their types behind those it had. -/
theorem foldl_substitute
    (plain : ∀ p ∈ params, ∀ name ∈ p.placeholder?, BraceFree name)
    (apart : params.Pairwise fun p q => ¬ p.Clashes q)
    (avoids : ∀ p ∈ params, ∀ name ∈ p.placeholder?, Avoids typeOf name) (cs : List Char) :
    params.foldl Parameter.substitute (fill typeOf cs) =
      fill (fun m => (typeOf m).or (placeholderType params m)) cs := by
  induction params generalizing typeOf with
  | nil => simp [placeholderType]
  | cons p params ih =>
    rw [List.pairwise_cons] at apart
    rw [List.forall_mem_cons] at plain avoids
    rw [List.foldl_cons]
    cases hp : p.placeholder? with
    | none =>
      have htype : ∀ m, p.typeFor m = none := fun m => by simp [Parameter.typeFor, hp]
      rw [Parameter.substitute_of_none hp, ih plain.2 apart.2 avoids.2]
      simp only [placeholderType_cons, htype, Option.none_or]
    | some name =>
      have htype : ∀ m, p.typeFor m = if name = m then some p.primitiveType else none :=
        fun m => by simp [Parameter.typeFor, hp]
      have havoids : ∀ q ∈ params, ∀ m ∈ q.placeholder?,
          Avoids (orType typeOf name p.primitiveType) m := by
        intro q hq m hm l type hl
        rcases Option.or_eq_some_iff.1 hl with hl | ⟨-, hl⟩
        · exact avoids.2 q hq m hm l type hl
        · split at hl
          · cases hl
            refine ⟨p.primitiveType_braceFree, ?_⟩
            rintro rfl
            exact apart.1 q hq ⟨by rw [hp]; rfl, hm⟩
          · cases hl
      rw [Parameter.substitute_of_some hp, replaceAll_fill (plain.1 name hp) (avoids.1 name hp),
        ih plain.2 apart.2 havoids]
      simp only [orType, Option.or_assoc, placeholderType_cons, htype]

/-- A template is a scan of the path, unless a parameter replaces what one in front of it
has inserted. -/
theorem endpointTemplate_of_apart (path : String)
    (plain : ∀ p ∈ params, ∀ name ∈ p.placeholder?, BraceFree name)
    (apart : params.Pairwise fun p q => ¬ p.Clashes q) :
    endpointTemplate path params = String.ofList (fill (placeholderType params) path.toList) := by
  have avoids : ∀ p ∈ params, ∀ name ∈ p.placeholder?, Avoids (fun _ => none) name := by
    intro p _ name _ m type htype
    cases htype
  have hrun := foldl_substitute plain apart avoids path.toList
  rw [fill_none] at hrun
  rw [endpointTemplate, hrun]
  simp only [Option.none_or]

/-- Parameters that have no name, or are not given in the path, leave a template as it is. -/
theorem endpointTemplate_filter (path : String) (params : List Parameter) :
    endpointTemplate path (params.filter (·.placeholder?.isSome)) =
      endpointTemplate path params := by
  have hrun : ∀ cs : List Char,
      (params.filter (·.placeholder?.isSome)).foldl Parameter.substitute cs =
        params.foldl Parameter.substitute cs := by
    induction params with
    | nil => exact fun _ => rfl
    | cons p params ih =>
      intro cs
      cases hp : p.placeholder? with
      | none =>
        rw [List.filter_cons_of_neg (by simp [hp]), List.foldl_cons,
          Parameter.substitute_of_none hp, ih]
      | some name =>
        rw [List.filter_cons_of_pos (by simp [hp]), List.foldl_cons, ih, List.foldl_cons]
  rw [endpointTemplate, endpointTemplate, hrun]

/-- Under names that are no types, a template is one scan of the path, and only the named
parameters of the path count. -/
theorem endpointTemplate_eq_fill (path : String) (params : List Parameter)
    (untyped : ∀ p ∈ params, ∀ name ∈ p.placeholder?,
      BraceFree name ∧ name ≠ "string" ∧ name ≠ "number") :
    endpointTemplate path params = String.ofList (fill (placeholderType params) path.toList) ∧
      endpointTemplate path params =
        endpointTemplate path (params.filter (·.placeholder?.isSome)) := by
  have apart : ∀ p : Parameter, ∀ q ∈ params, ¬ p.Clashes q := by
    intro p q hq ⟨_, hname⟩
    obtain ⟨-, hstring, hnumber⟩ := untyped q hq _ hname
    exact p.primitiveType_eq_or.elim hnumber hstring
  refine ⟨endpointTemplate_of_apart path (fun p hp name h => (untyped p hp name h).1) ?_,
    (endpointTemplate_filter path params).symm⟩
  exact List.pairwise_of_forall_mem_list fun p _ q hq => apart p q hq

end Run

/-- Parameters of a path and of a query; a name is declared twice, and one is missing. -/
def repeatedParameters : List Parameter :=
  [{ name := some "x", location := some "path", format := some "int64" },
    { location := some "path" },
    { name := some "x", location := some "path" },
    { name := some "y", location := some "query" }]

/-- The first type of a name counts, also within further braces; a name that is given in the
query, or never closed, stays. -/
theorem endpointTemplate_eq_fill_repeatedParameters :
    endpointTemplate "/\x7bx\x7d/\x7b\x7bx\x7d\x7d/\x7by\x7d/\x7bx" repeatedParameters =
      "/$\x7bnumber\x7d/\x7b$\x7bnumber\x7d\x7d/\x7by\x7d/\x7bx" := by
  rw [(endpointTemplate_eq_fill _ repeatedParameters (by decide)).1]
  decide +kernel

/-! ## the order of the parameters -/

section Order

variable {params params' : List Parameter} {p q : Parameter} {m : String}

/-- The names of the placeholders that parameters replace. -/
def placeholderNames (params : List Parameter) : List String :=
  params.filterMap Parameter.placeholder?

theorem nodup_of_cons (h : (placeholderNames (p :: params)).Nodup) :
    (placeholderNames params).Nodup :=
  h.sublist ((List.sublist_cons_self p params).filterMap _)

/-- When each name is declared once, the types of the names do not depend on the order. -/
theorem placeholderType_perm (distinct : (placeholderNames params).Nodup)
    (h : params.Perm params') : placeholderType params m = placeholderType params' m := by
  induction h with
  | nil => rfl
  | cons p _ ih =>
    rw [placeholderType_cons, placeholderType_cons, ih (nodup_of_cons distinct)]
  | swap p q params =>
    simp only [placeholderType_cons, Parameter.typeFor]
    by_cases hp : p.placeholder? = some m
    · have hq : q.placeholder? ≠ some m := by
        intro hq
        rw [placeholderNames, List.filterMap_cons_some hq, List.filterMap_cons_some hp] at distinct
        exact (List.nodup_cons.1 distinct).1 List.mem_cons_self
      rw [if_neg hq, Option.none_or, Option.none_or]
    · rw [if_neg hp, Option.none_or, Option.none_or]
  | trans h _ ih ih' =>
    exact (ih distinct).trans (ih' ((h.filterMap _).nodup_iff.1 distinct))

/-- What stands in front of the first brace is kept. -/
theorem foldl_substitute_append {xs : List Char} (h : '{' ∉ xs) (ys : List Char) :
    params.foldl Parameter.substitute (xs ++ ys) =
      xs ++ params.foldl Parameter.substitute ys := by
  induction params generalizing ys with
  | nil => rfl
  | cons p params ih =>
    have hstep : Parameter.substitute (xs ++ ys) p = xs ++ Parameter.substitute ys p := by
      cases hp : p.placeholder? with
      | none => rw [Parameter.substitute_of_none hp, Parameter.substitute_of_none hp]
      | some name =>
        rw [Parameter.substitute_of_some hp, Parameter.substitute_of_some hp]
        exact Text.replaceAll_append_of_not_mem h _ _ _
    rw [List.foldl_cons, hstep, ih, List.foldl_cons]

/-- A placeholder that is replaced. -/
theorem Parameter.substitute_placeholder (h : p.placeholder? = some m) :
    Parameter.substitute (placeholder m) p = ['$'] ++ placeholder p.primitiveType := by
  have hnonempty : placeholder m ≠ [] := by simp [placeholder]
  have hfront := Text.replaceAll_append_self hnonempty (typePlaceholder p.primitiveType) []
  rw [List.append_nil, Text.replaceAll_nil, List.append_nil] at hfront
  rw [Parameter.substitute_of_some h, hfront]
  rfl

/-- A placeholder that no parameter replaces. -/
theorem foldl_substitute_placeholder (hm : BraceFree m)
    (plain : ∀ p ∈ params, ∀ name ∈ p.placeholder?, BraceFree name)
    (h : m ∉ placeholderNames params) :
    params.foldl Parameter.substitute (placeholder m) = placeholder m := by
  induction params with
  | nil => rfl
  | cons p params ih =>
    rw [List.forall_mem_cons] at plain
    cases hp : p.placeholder? with
    | none =>
      rw [placeholderNames, List.filterMap_cons_none hp] at h
      rw [List.foldl_cons, Parameter.substitute_of_none hp, ih plain.2 h]
    | some name =>
      rw [placeholderNames, List.filterMap_cons_some hp, List.mem_cons, not_or] at h
      have hpast := replaceAll_placeholder_of_ne hm (plain.1 name hp) (Ne.symm h.1)
        (typePlaceholder p.primitiveType) []
      rw [List.append_nil, Text.replaceAll_nil, List.append_nil] at hpast
      rw [List.foldl_cons, Parameter.substitute_of_some hp, hpast, ih plain.2 h.2]

/-- A type that is replaced in its turn has two signs in front of it. -/
theorem foldl_substitute_twice {name : String} (hp : p.placeholder? = some name)
    (hq : q.placeholder? = some p.primitiveType) :
    (p :: q :: params).foldl Parameter.substitute (placeholder name) =
      '$' :: '$' :: params.foldl Parameter.substitute (placeholder q.primitiveType) := by
  have hdollar : '{' ∉ ['$'] := by decide
  calc
    (p :: q :: params).foldl Parameter.substitute (placeholder name)
      = (q :: params).foldl Parameter.substitute (['$'] ++ placeholder p.primitiveType) := by
        rw [List.foldl_cons, Parameter.substitute_placeholder hp]
    _ = ['$'] ++ params.foldl Parameter.substitute (['$'] ++ placeholder q.primitiveType) := by
        rw [foldl_substitute_append hdollar, List.foldl_cons, Parameter.substitute_placeholder hq]
    _ = '$' :: '$' :: params.foldl Parameter.substitute (placeholder q.primitiveType) := by
        rw [foldl_substitute_append hdollar]
        rfl

/-- A type that no parameter is named like stays as it was inserted. -/
theorem foldl_substitute_once {name : String} (hp : p.placeholder? = some name)
    (plain : ∀ r ∈ params, ∀ name ∈ r.placeholder?, BraceFree name)
    (hfresh : p.primitiveType ∉ placeholderNames params) :
    (p :: params).foldl Parameter.substitute (placeholder name) =
      '$' :: placeholder p.primitiveType := by
  have hdollar : '{' ∉ ['$'] := by decide
  rw [List.foldl_cons, Parameter.substitute_placeholder hp, foldl_substitute_append hdollar,
    foldl_substitute_placeholder p.primitiveType_braceFree plain hfresh]
  rfl

/-- The places of two parameters count if the second one replaces what the first one has
inserted. -/
theorem endpointTemplate_swap_ne (distinct : (placeholderNames (p :: q :: params)).Nodup)
    (plain : ∀ r ∈ p :: q :: params, ∀ name ∈ r.placeholder?, BraceFree name)
    (h : p.Clashes q) :
    ∃ path, endpointTemplate path (p :: q :: params) ≠
      endpointTemplate path (q :: p :: params) := by
  obtain ⟨hp, hq⟩ := h
  obtain ⟨name, hp⟩ := Option.isSome_iff_exists.1 hp
  rw [List.forall_mem_cons, List.forall_mem_cons] at plain
  have hnames : placeholderNames (p :: q :: params) =
      name :: p.primitiveType :: placeholderNames params := by
    rw [placeholderNames, List.filterMap_cons_some hp, List.filterMap_cons_some hq]
    rfl
  rw [hnames, List.nodup_cons, List.nodup_cons, List.mem_cons, not_or] at distinct
  obtain ⟨⟨hne, -⟩, hfresh, -⟩ := distinct
  have hkept : [q].foldl Parameter.substitute (placeholder name) = placeholder name := by
    refine foldl_substitute_placeholder (plain.1 name hp)
      (List.forall_mem_singleton.2 plain.2.1) ?_
    rw [placeholderNames, List.filterMap_cons_some hq, List.filterMap_nil, List.mem_singleton]
    exact hne
  have hback : (q :: p :: params).foldl Parameter.substitute (placeholder name) =
      '$' :: placeholder p.primitiveType :=
    (congrArg ((p :: params).foldl Parameter.substitute) hkept).trans
      (foldl_substitute_once hp plain.2.2 hfresh)
  -- the second sign of one template is the brace of the other one
  refine ⟨String.ofList (placeholder name), fun heq => ?_⟩
  rw [endpointTemplate, endpointTemplate, String.toList_ofList, foldl_substitute_twice hp hq,
    hback, String.ofList_inj, placeholder] at heq
  exact absurd (List.cons.inj (List.cons.inj heq).2).1 (by decide)

/-- The order of named parameters does not count if, and only if, no one is named like the
type of another. -/
theorem endpointTemplate_perm_iff (distinct : (placeholderNames params).Nodup)
    (plain : ∀ p ∈ params, ∀ name ∈ p.placeholder?, BraceFree name) :
    (∀ (path : String) (params' : List Parameter), params.Perm params' →
      endpointTemplate path params = endpointTemplate path params') ↔
    params.Pairwise fun p q => ¬ p.Clashes q ∧ ¬ q.Clashes p := by
  constructor
  · intro order
    refine List.pairwise_of_forall_sublist fun {p q} hpq => ?_
    obtain ⟨rest, hrest⟩ := hpq.exists_perm_append
    have hswap : params.Perm (q :: p :: rest) := hrest.trans (.swap q p rest)
    have apart : ∀ {p q : Parameter}, params.Perm (p :: q :: rest) →
        params.Perm (q :: p :: rest) → ¬ p.Clashes q := by
      intro p q h h' hclash
      obtain ⟨path, hpath⟩ := endpointTemplate_swap_ne ((h.filterMap _).nodup_iff.1 distinct)
        (fun r hr => plain r (h.mem_iff.2 hr)) hclash
      exact hpath ((order path _ h).symm.trans (order path _ h'))
    exact ⟨apart hrest hswap, apart hswap hrest⟩
  · intro apart path params' h
    have hapart : params'.Pairwise fun p q => ¬ p.Clashes q ∧ ¬ q.Clashes p :=
      h.pairwise apart fun hpq => hpq.symm
    rw [endpointTemplate_of_apart path plain (apart.imp And.left),
      endpointTemplate_of_apart path (fun p hp => plain p (h.mem_iff.2 hp)) (hapart.imp And.left)]
    have htypes : placeholderType params = placeholderType params' :=
      funext fun m => placeholderType_perm distinct h
    rw [htypes]

end Order

/-- The parameters of a vote. -/
def voteParameters : List Parameter :=
  [{ name := some "proposal_id", location := some "path", format := some "uint64" },
    { name := some "voter", location := some "path" },
    { name := some "voter", location := some "query" }]

theorem endpointTemplate_perm_iff_voteParameters :
    endpointTemplate "/proposals/\x7bproposal_id\x7d/votes/\x7bvoter\x7d" voteParameters =
      endpointTemplate "/proposals/\x7bproposal_id\x7d/votes/\x7bvoter\x7d"
        voteParameters.reverse :=
  (endpointTemplate_perm_iff (by decide) (by decide)).2 (by decide) _ _
    voteParameters.reverse_perm.symm

/-- The owner of a vault, and a parameter that is named like the owner's type. -/
def vaultParameters : List Parameter :=
  [{ name := some "owner", location := some "path" },
    { name := some "string", location := some "path", format := some "int64" }]

/-- The type of the owner is taken for a placeholder, but not in the other order. -/
theorem endpointTemplate_vaultParameters :
    (placeholderNames vaultParameters).Nodup ∧
      (∀ p ∈ vaultParameters, ∀ name ∈ p.placeholder?, BraceFree name) ∧
      vaultParameters.Perm vaultParameters.reverse ∧
      endpointTemplate "/vaults/\x7bowner\x7d" vaultParameters = "/vaults/$$\x7bnumber\x7d" ∧
      endpointTemplate "/vaults/\x7bowner\x7d" vaultParameters.reverse =
        "/vaults/$\x7bstring\x7d" :=
  ⟨by decide, by decide, vaultParameters.reverse_perm.symm, by decide +kernel, by decide +kernel⟩

end ChainApi
