import Mathlib.Data.List.Basic

/-!
# ChainApi.Proofs.Reader

Readers that take a written text off the front of a longer one.  A reader is
specified by a text and the value that the text was written from: in front of the
text and of whatever follows, it takes just the text and gives back the value.
Readers are put together like the texts they read, and so are their specifications.

* `Reader.Reads` — a reader gets back what a text was written from;
* `reads_expect`, `reads_before`, `reads_upTo`, `reads_line` — a fixed text, the text before
  a mark, and the rest of a line;
* `reads_oneOf` — one of several kinds of text, told apart by what they begin with;
* `reads_block` — a block of entries, which ends where no further entry is led in;
* `reads_entriesBefore` — entries up to a text that no entry begins with.
-/

namespace ChainApi

/-! ## readers -/

/-- A reader takes a value off the front of a text. -/
abbrev Reader := StateT (List Char) Option

namespace Reader

variable {α β : Type} {r : Reader α} {a : α} {b : β} {f : α → Reader β} {w v : List Char}

/-- In front of a text and of anything that follows, the reader takes the text and gives
back the value. -/
def Reads (r : Reader α) (w : List Char) (a : α) : Prop :=
  ∀ rest, r.run (w ++ rest) = some (a, rest)

theorem Reads.pure (a : α) : Reads (pure a) [] a := fun _ => rfl

theorem Reads.bind (h : r.Reads w a) (hf : (f a).Reads v b) : (r >>= f).Reads (w ++ v) b := by
  intro rest
  rw [StateT.run_bind, List.append_assoc, h]
  exact hf rest

theorem Reads.map (h : r.Reads w a) (f : α → β) : (f <$> r).Reads w (f a) := by
  intro rest
  rw [StateT.run_map, h]
  rfl

theorem Reads.of_eq (h : r.Reads w a) (heq : w = v) : r.Reads v a := heq ▸ h

theorem Reads.bind_pure (h : r.Reads w a) (f : α → β) :
    (r >>= fun x => Pure.pure (f x)).Reads w (f a) :=
  (h.bind (.pure (f a))).of_eq (List.append_nil w)

/-- Take what is already at hand, if it is there. -/
def given (x : Option α) : Reader α := fun cs => x.map fun a => (a, cs)

theorem reads_given {x : Option α} (h : x = some a) : (given x).Reads [] a := by
  subst h
  exact fun _ => rfl

/-- Take a fixed text. -/
def expect (w : List Char) : Reader Unit := fun cs =>
  if w.isPrefixOf cs then some ((), cs.drop w.length) else none

theorem reads_expect (w : List Char) : (expect w).Reads w () := by
  intro rest
  have hprefix : w.isPrefixOf (w ++ rest) = true :=
    List.isPrefixOf_iff_prefix.2 (List.prefix_append w rest)
  show (if w.isPrefixOf (w ++ rest) = true then _ else _) = _
  rw [if_pos hprefix, List.drop_left]

/-- Take the text before a mark, and the mark. -/
def before (mark : Char) : Reader (List Char) := fun cs =>
  match cs.dropWhile (· != mark) with
  | [] => none
  | _ :: rest => some (cs.takeWhile (· != mark), rest)

theorem reads_before {mark : Char} (h : mark ∉ w) : (before mark).Reads (w ++ [mark]) w := by
  intro rest
  have hother : ∀ c ∈ w, (c != mark) = true := by
    intro c hc
    simp only [bne_iff_ne, ne_eq]
    rintro rfl
    exact h hc
  have hdrop : (w ++ [mark] ++ rest).dropWhile (· != mark) = mark :: rest := by
    rw [List.append_assoc, List.dropWhile_append_of_pos hother]
    simp
  have htake : (w ++ [mark] ++ rest).takeWhile (· != mark) = w := by
    rw [List.append_assoc, List.takeWhile_append_of_pos hother]
    simp
  show (match (w ++ [mark] ++ rest).dropWhile (· != mark) with
    | [] => none
    | _ :: rest' => some ((w ++ [mark] ++ rest).takeWhile (· != mark), rest')) = _
  rw [hdrop, htake]

/-- A text parted at the first occurrence of a mark, which is dropped. -/
def partAt (mark : List Char) : List Char → Option (List Char × List Char)
  | [] => none
  | c :: cs =>
    if mark.isPrefixOf (c :: cs) then some ([], (c :: cs).drop mark.length)
    else (partAt mark cs).map fun r => (c :: r.1, r.2)

theorem partAt_append {mark : List Char} (h : ¬ mark <:+: (w ++ mark).dropLast) (rest : List Char) :
    partAt mark (w ++ mark ++ rest) = some (w, rest) := by
  have hne : mark ≠ [] := by
    rintro rfl
    exact h List.nil_infix
  induction w with
  | nil =>
    have hprefix : mark.isPrefixOf (mark ++ rest) = true :=
      List.isPrefixOf_iff_prefix.2 (List.prefix_append mark rest)
    obtain ⟨c, cs, rfl⟩ := List.exists_cons_of_ne_nil hne
    rw [List.nil_append, List.cons_append, partAt, ← List.cons_append, if_pos hprefix,
      List.drop_left]
  | cons c w ih =>
    have htail : (c :: w ++ mark).dropLast = c :: (w ++ mark).dropLast :=
      List.dropLast_cons_of_ne_nil (List.append_ne_nil_of_right_ne_nil w hne)
    rw [htail] at h
    have hrest := ih fun hwithin => h (hwithin.trans (List.suffix_cons c _).isInfix)
    have hprefix : ¬ mark.isPrefixOf (c :: (w ++ mark ++ rest)) = true := by
      intro hmark
      have hlast : c :: (w ++ mark).dropLast <+: c :: (w ++ mark ++ rest) :=
        (List.prefix_cons_inj c).2 ((List.dropLast_prefix _).trans (List.prefix_append _ _))
      have hlength : mark.length ≤ (c :: (w ++ mark).dropLast).length := by
        simp only [List.length_cons, List.length_dropLast, List.length_append]
        omega
      exact h (List.prefix_of_prefix_length_le (List.isPrefixOf_iff_prefix.1 hmark) hlast
        hlength).isInfix
    rw [List.cons_append, List.cons_append, partAt, if_neg hprefix, hrest]
    rfl

/-- Take the text before the first occurrence of a mark of several characters, and the mark. -/
def upTo (mark : List Char) : Reader (List Char) := partAt mark

theorem reads_upTo {mark : List Char} (h : ¬ mark <:+: (w ++ mark).dropLast) :
    (upTo mark).Reads (w ++ mark) w := partAt_append h

/-- Take the rest of a line, without the text that ends it. -/
def line (ending : List Char) : Reader String :=
  (fun text => String.ofList (text.take (text.length - ending.length))) <$> before '\n'

theorem reads_line {ending : List Char} {s : String} (hs : '\n' ∉ s.toList)
    (hending : '\n' ∉ ending) : (line ending).Reads (s.toList ++ ending ++ ['\n']) s := by
  have hline : '\n' ∉ s.toList ++ ending := by simp [hs, hending]
  have htake : (s.toList ++ ending).take ((s.toList ++ ending).length - ending.length) =
      s.toList := by
    rw [List.length_append, Nat.add_sub_cancel, List.take_left]
  have hread := (reads_before hline).map fun text : List Char =>
    String.ofList (text.take (text.length - ending.length))
  simp only [htake, String.ofList_toList] at hread
  exact hread

/-- Take one of two kinds of text, told apart by what they begin with. -/
def choose (mark : List Char) (yes no : Reader α) : Reader α := fun cs =>
  if mark.isPrefixOf cs then yes.run cs else no.run cs

theorem reads_choose_left {mark : List Char} {s : Reader α} (h : r.Reads w a)
    (hmark : mark <+: w) : (choose mark r s).Reads w a := by
  intro rest
  have hprefix : mark.isPrefixOf (w ++ rest) = true :=
    List.isPrefixOf_iff_prefix.2 (hmark.trans (List.prefix_append w rest))
  show (if mark.isPrefixOf (w ++ rest) = true then _ else _) = _
  rw [if_pos hprefix]
  exact h rest

theorem reads_choose_right {mark : List Char} {s : Reader α} (h : r.Reads w a)
    (hmark : ∀ rest, mark.isPrefixOf (w ++ rest) = false) : (choose mark s r).Reads w a := by
  intro rest
  show (if mark.isPrefixOf (w ++ rest) = true then _ else _) = _
  rw [if_neg (by simp [hmark])]
  exact h rest

/-- What begins in one of two ways does not begin in the other one, if none of them is the
beginning of the other. -/
theorem isPrefixOf_append_eq_false {lead stop : List Char} (hlead : ¬ lead <+: stop)
    (hstop : ¬ stop <+: lead) (rest : List Char) : lead.isPrefixOf (stop ++ rest) = false := by
  rw [Bool.eq_false_iff]
  intro h
  rcases List.prefix_or_prefix_of_prefix (List.isPrefixOf_iff_prefix.1 h)
    (List.prefix_append stop rest) with h | h
  · exact hlead h
  · exact hstop h

/-- Take one of several kinds of text, told apart by what they begin with. -/
def oneOf : List (List Char × Reader α) → Reader α
  | [] => fun _ => none
  | (mark, r) :: kinds => choose mark r (oneOf kinds)

theorem reads_oneOf {kinds : List (List Char × Reader α)} {mark : List Char}
    (distinct : (kinds.map Prod.fst).Pairwise fun m m' => ¬ m <+: m' ∧ ¬ m' <+: m)
    (listed : (mark, r) ∈ kinds) (h : r.Reads (mark ++ w) a) :
    (oneOf kinds).Reads (mark ++ w) a := by
  induction kinds with
  | nil => contradiction
  | cons kind kinds ih =>
    rw [List.map_cons, List.pairwise_cons] at distinct
    rcases List.mem_cons.1 listed with rfl | listed
    · exact reads_choose_left h (List.prefix_append mark w)
    · obtain ⟨hmark, hkind⟩ := distinct.1 mark (List.mem_map_of_mem listed)
      refine reads_choose_right (ih distinct.2 listed) fun rest => ?_
      rw [List.append_assoc]
      exact isPrefixOf_append_eq_false hmark hkind _

/-- Take entries as long as they are led in by a text. -/
def eachAfter (lead : List Char) (item : Reader α) (cs : List Char) :
    Option (List α × List Char) :=
  if lead.isPrefixOf cs then
    match item.run (cs.drop lead.length) with
    | none => none
    | some (a, rest) =>
      -- an entry that takes nothing would be taken for ever
      if rest.length < cs.length then
        (eachAfter lead item rest).map fun r => (a :: r.1, r.2)
      else none
  else some ([], cs)
termination_by cs.length

/-- Take a block of entries, each led in by a text, and the text that closes the block. -/
def block (lead stop : List Char) (item : Reader α) : Reader (List α) := do
  let as ← eachAfter lead item
  expect stop
  pure as

/-- Entries up to a text that closes them, and what follows that text. -/
def eachBefore (stop : List Char) (item : Reader α) (cs : List Char) :
    Option (List α × List Char) :=
  if stop.isPrefixOf cs then some ([], cs.drop stop.length)
  else
    match item.run cs with
    | none => none
    | some (a, rest) =>
      -- an entry that takes nothing would be taken for ever
      if rest.length < cs.length then
        (eachBefore stop item rest).map fun r => (a :: r.1, r.2)
      else none
termination_by cs.length

/-- Take entries up to a text that closes them, and that text. -/
def entriesBefore (stop : List Char) (item : Reader α) : Reader (List α) := eachBefore stop item

section Blocks

variable {lead stop : List Char} {item : Reader β} {as : List α} {write : α → List Char}
  {value : α → β}

/-- The entries of a block are taken one by one, up to what closes the block. -/
theorem eachAfter_append (hlead : ¬ lead <+: stop) (hstop : ¬ stop <+: lead)
    (h : ∀ a ∈ as, item.Reads (write a) (value a)) (rest : List Char) :
    eachAfter lead item (as.flatMap (fun a => lead ++ write a) ++ stop ++ rest) =
      some (as.map value, stop ++ rest) := by
  have hne : lead ≠ [] := by
    rintro rfl
    exact hlead List.nil_prefix
  induction as with
  | nil =>
    rw [List.flatMap_nil, List.nil_append, eachAfter,
      isPrefixOf_append_eq_false hlead hstop rest]
    rfl
  | cons a as ih =>
    have hrest := ih fun b hb => h b (List.mem_cons_of_mem _ hb)
    have hitem := h a List.mem_cons_self (as.flatMap (fun a => lead ++ write a) ++ stop ++ rest)
    have htext : (a :: as).flatMap (fun a => lead ++ write a) ++ stop ++ rest =
        lead ++ (write a ++ (as.flatMap (fun a => lead ++ write a) ++ stop ++ rest)) := by
      simp
    have hprefix : lead.isPrefixOf (lead ++ (write a ++
        (as.flatMap (fun a => lead ++ write a) ++ stop ++ rest))) = true :=
      List.isPrefixOf_iff_prefix.2 (List.prefix_append _ _)
    have hless : (as.flatMap (fun a => lead ++ write a) ++ stop ++ rest).length <
        (lead ++ (write a ++ (as.flatMap (fun a => lead ++ write a) ++ stop ++ rest))).length := by
      have hpos := List.length_pos_iff.2 hne
      simp only [List.length_append]
      omega
    rw [htext, eachAfter, if_pos hprefix, List.drop_left, hitem]
    simp only
    rw [if_pos hless, hrest]
    rfl

/-- A block is read back entry by entry. -/
theorem reads_block (hlead : ¬ lead <+: stop) (hstop : ¬ stop <+: lead)
    (h : ∀ a ∈ as, item.Reads (write a) (value a)) :
    (block lead stop item).Reads (as.flatMap (fun a => lead ++ write a) ++ stop)
      (as.map value) := by
  intro rest
  have hentries : StateT.run (eachAfter lead item : Reader (List β))
      (as.flatMap (fun a => lead ++ write a) ++ stop ++ rest) = some (as.map value, stop ++ rest) :=
    eachAfter_append hlead hstop h rest
  rw [block, StateT.run_bind, hentries]
  have hclose : (expect stop >>= fun _ => pure (as.map value) : Reader (List β)).Reads (stop ++ [])
      (as.map value) := (reads_expect stop).bind (.pure _)
  exact hclose.of_eq (List.append_nil stop) rest

/-- Entries are taken one by one, up to what none of them begins with. -/
theorem reads_entriesBefore (hstart : ∀ a ∈ as, ∀ rest, stop.isPrefixOf (write a ++ rest) = false)
    (h : ∀ a ∈ as, item.Reads (write a) (value a)) :
    (entriesBefore stop item).Reads (as.flatMap write ++ stop) (as.map value) := by
  intro rest
  show eachBefore stop item _ = _
  induction as with
  | nil =>
    have hprefix : stop.isPrefixOf (stop ++ rest) = true :=
      List.isPrefixOf_iff_prefix.2 (List.prefix_append stop rest)
    rw [List.flatMap_nil, List.nil_append, eachBefore, if_pos hprefix, List.drop_left]
    rfl
  | cons a as ih =>
    have hrest := ih (fun b hb => hstart b (List.mem_cons_of_mem _ hb))
      fun b hb => h b (List.mem_cons_of_mem _ hb)
    have hother := hstart a List.mem_cons_self
    have hitem := h a List.mem_cons_self (as.flatMap write ++ stop ++ rest)
    have htext : (a :: as).flatMap write ++ stop ++ rest =
        write a ++ (as.flatMap write ++ stop ++ rest) := by
      simp
    have hpos : 0 < (write a).length := by
      refine List.length_pos_iff.2 fun hnil => ?_
      have hstop := hother stop
      rw [hnil, List.nil_append, List.isPrefixOf_iff_prefix.2 (List.prefix_refl stop)] at hstop
      contradiction
    have hless : (as.flatMap write ++ stop ++ rest).length <
        (write a ++ (as.flatMap write ++ stop ++ rest)).length := by
      simp only [List.length_append]
      omega
    rw [htext, eachBefore, if_neg (by simp [hother]), hitem]
    simp only
    rw [if_pos hless, hrest]
    rfl

end Blocks

end Reader

end ChainApi
