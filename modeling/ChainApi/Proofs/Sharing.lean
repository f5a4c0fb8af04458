import ChainApi.Proofs.Stored

/-!
# ChainApi.Proofs.Sharing

What the commands of a session do to the catalogues that they do not name.  The endpoints
that a session stores are numbered by the command that stores them, so that what a command
stores is held by no catalogue yet.  A command shows in the catalogue that it stores or
changes, and a change within an endpoint shows in the other catalogues that hold the
endpoint too.

A merge is the one way in which two catalogues come to hold the same endpoint.  The records
of the left catalogue and the new ones of the right one are copied, but where an operation
is in both of them, an endpoint that the left one lacks is the very one of the right one.

* `Session.get?_put_rewrite` — which catalogues a change of a record shows in;
* `Session.shares_issue_merge` — what a merge shares;
* `Session.follows_of_run` — one command, from what the session shows before it;
* `Session.numbered_perform` — the numbering, along commands in order;
* `Session.perform_follows` — every command of a session.
-/

namespace ChainApi

/-! ## sharing -/

namespace Session

variable {s t : Session} {name a b id chain : String} {n : Nat}

/-- The number of the command that stored an endpoint of a catalogue. -/
def serial? (s : Session) (name id chain : String) : Option Nat :=
  (s.registers.get? name).bind fun c => c.serial? id chain

/-- Do two catalogues hold the same endpoint of an operation for a chain? -/
def Shares (s : Session) (a b id chain : String) : Prop :=
  (s.serial? a id chain).isSome ∧ s.serial? a id chain = s.serial? b id chain

instance : Decidable (s.Shares a b id chain) := inferInstanceAs (Decidable (_ ∧ _))

theorem shares_iff :
    s.Shares a b id chain ↔
      ∃ n, s.serial? a id chain = some n ∧ s.serial? b id chain = some n := by
  rw [Shares, Option.isSome_iff_exists]
  constructor
  · rintro ⟨⟨n, ha⟩, h⟩
    exact ⟨n, ha, h ▸ ha⟩
  · rintro ⟨n, ha, hb⟩
    exact ⟨⟨n, ha⟩, ha.trans hb.symm⟩

/-- The endpoints that are stored have been stored by commands carried out before. -/
def Numbered (s : Session) : Prop :=
  ∀ name id chain n, s.serial? name id chain = some n → n < s.serial

theorem numbered_start : ({} : Session).Numbered := fun _ _ _ _ h => nomatch h

theorem get?_eq (s : Session) (name : String) :
    s.get? name = (s.registers.get? name).map (StoredCatalogue.view s.memory) := rfl

/-- What is under a name shows as it did if its cells hold what they held. -/
theorem get?_congr (hregister : t.registers.get? name = s.registers.get? name)
    (h : ∀ id chain n, s.serial? name id chain = some n →
      t.memory ⟨n, id, chain⟩ = s.memory ⟨n, id, chain⟩) :
    t.get? name = s.get? name := by
  rw [get?, get?, hregister]
  cases hc : s.registers.get? name with
  | none => rfl
  | some c =>
    refine congrArg some (StoredCatalogue.view_congr fun id chain n hn => h id chain n ?_)
    rw [serial?, hc, Option.bind_some, hn]

end Session

/-! ## what a command comes to -/

/-- Does a change of a record of one catalogue reach another one?  A change within an endpoint
reaches those that hold the endpoint too. -/
def Edit.Reaches (s : Session) (of id name : String) : Edit → Prop
  | within chain _ _ => s.Shares of name id chain
  | _ => False

instance (s : Session) (of id name : String) : (change : Edit) →
    Decidable (change.Reaches s of id name)
  | .within .. => inferInstanceAs (Decidable (s.Shares ..))
  | .method .. | .comment .. | .type .. | .endpoint .. => inferInstanceAs (Decidable False)

/-- Is there what is to be changed? -/
def Edit.Applies (r : OperationTypes) : Edit → Prop
  | within chain _ _ => chain ∈ r.endpoint.keys
  | _ => True

namespace Command

/-- Can a command be carried out? -/
def Applies (s : Session) : Command → Prop
  | extract _ source => ∃ c, source.extract.outcome = .ok c
  | set _ _ => True
  | merge _ left right => (s.get? left).isSome ∧ (s.get? right).isSome
  | edit of id change => ∃ c r, s.get? of = some c ∧ c.get? id = some r ∧ change.Applies r

/-- What a name shows after a command, by what the names showed before. -/
def shows (s : Session) (name : String) : Command → Option Catalogue
  | extract into source =>
    if name = into then source.extract.outcome.toOption else s.get? name
  | set into c => if name = into then some c else s.get? name
  | merge into left right =>
    if name = into then do
      let a ← s.get? left
      let b ← s.get? right
      some (Catalogue.merge a b)
    else s.get? name
  | edit of id change =>
    if name = of ∨ change.Reaches s of id name then
      (s.get? name).map (Catalogue.adjust id change.apply)
    else s.get? name

/-- Does the catalogue that a command stores share an endpoint with another one?  A merge takes
the endpoints that its left catalogue lacks for an operation of both from the right one, and
with them shares what the right one shares.  A changed catalogue shares what it shared, apart
from an endpoint that is replaced. -/
def Hands (s : Session) (name id chain : String) : Command → Prop
  | extract .. | set .. => False
  | merge _ left right =>
    (∃ c, s.get? left = some c ∧ id ∈ c.keys ∧ c.endpoint? id chain = none) ∧
      s.Shares right name id chain
  | edit of id' change => ¬ (id = id' ∧ change.renews chain) ∧ s.Shares of name id chain

end Command

/-- What a command leaves of a session. -/
structure Session.Follows (s : Session) (command : Command) (t : Session) : Prop where
  /-- Every name shows what the command makes of it. -/
  shows : ∀ name, t.get? name = command.shows s name
  /-- The catalogue that the command names shares what the command hands to it. -/
  hands : ∀ name id chain, name ≠ command.target →
    (t.Shares command.target name id chain ↔ command.Hands s name id chain)
  /-- The others share among themselves what they shared. -/
  others : ∀ a b id chain, a ≠ command.target → b ≠ command.target →
    (t.Shares a b id chain ↔ s.Shares a b id chain)

namespace Session

variable {s t : Session} {name a b id chain into left right of : String} {n : Nat}

section Put

variable {c : StoredCatalogue} {m : Memory}

theorem serial?_put (s : Session) (into : String) (c : StoredCatalogue) (m : Memory)
    (name id chain : String) :
    (s.put into c m).serial? name id chain =
      if name = into then c.serial? id chain else s.serial? name id chain := by
  rw [serial?, put, Table.get?_insert]
  split <;> rfl

theorem get?_put_self (s : Session) (into : String) (c : StoredCatalogue) (m : Memory) :
    (s.put into c m).get? into = some (c.view m) := by
  rw [get?_eq, put, Table.get?_insert, if_pos rfl, Option.map_some]

/-- Another name shows what it showed if its cells hold what they held. -/
theorem get?_put_of_ne (h : name ≠ into)
    (kept : ∀ id chain n, s.serial? name id chain = some n →
      m ⟨n, id, chain⟩ = s.memory ⟨n, id, chain⟩) :
    (s.put into c m).get? name = s.get? name :=
  get?_congr (by rw [put, Table.get?_insert, if_neg h]) kept

theorem numbered_put (numbered : s.Numbered)
    (h : ∀ id chain n, c.serial? id chain = some n → n ≤ s.serial) :
    (s.put into c m).Numbered := by
  intro name id chain n hn
  rw [serial?_put] at hn
  show n < s.serial + 1
  split at hn
  · exact Nat.lt_succ_of_le (h id chain n hn)
  · exact Nat.lt_succ_of_lt (numbered name id chain n hn)

/-- The other names share among themselves what they shared. -/
theorem shares_put_of_ne (ha : a ≠ into) (hb : b ≠ into) :
    (s.put into c m).Shares a b id chain ↔ s.Shares a b id chain := by
  rw [Shares, Shares, serial?_put, serial?_put, if_neg ha, if_neg hb]

end Put

/-! ### commands that store a catalogue -/

section Issue

variable {c : StoredCatalogue} {shown : Catalogue}

theorem memory_issue_self (s : Session) (into : String) (c : StoredCatalogue) (shown : Catalogue)
    (id chain : String) :
    (s.issue into c shown).memory ⟨s.serial, id, chain⟩ =
      (shown.endpoint? id chain).getD default := if_pos rfl

theorem memory_issue_of_lt (into : String) (c : StoredCatalogue) (shown : Catalogue)
    (h : n < s.serial) :
    (s.issue into c shown).memory ⟨n, id, chain⟩ = s.memory ⟨n, id, chain⟩ :=
  if_neg (Nat.ne_of_lt h)

/-- The catalogue shows as it is to show, and the others show what they showed. -/
theorem get?_issue (numbered : s.Numbered) (h : c.view (s.issue into c shown).memory = shown)
    (name : String) :
    (s.issue into c shown).get? name = if name = into then some shown else s.get? name := by
  split
  · next hname => exact hname ▸ (get?_put_self ..).trans (congrArg some h)
  · next hname =>
    exact get?_put_of_ne hname fun id chain n hn =>
      memory_issue_of_lt into c shown (numbered name id chain n hn)

end Issue

theorem view_issue_ofCatalogue (s : Session) (into : String) (c : Catalogue) :
    (StoredCatalogue.ofCatalogue s.serial c).view
      (s.issue into (.ofCatalogue s.serial c) c).memory = c :=
  StoredCatalogue.view_ofCatalogue fun id chain e he => by
    rw [memory_issue_self, he, Option.getD_some]

/-- A catalogue that is stored as a whole shares nothing. -/
theorem not_shares_ofCatalogue (numbered : s.Numbered) {c : Catalogue} (h : name ≠ into) :
    ¬ (s.issue into (.ofCatalogue s.serial c) c).Shares into name id chain := by
  rw [shares_iff]
  rintro ⟨n, hinto, hname⟩
  rw [issue, serial?_put, if_pos rfl, StoredCatalogue.serial?_ofCatalogue] at hinto
  rw [issue, serial?_put, if_neg h] at hname
  obtain ⟨_, -, rfl⟩ := Option.map_eq_some_iff.1 hinto
  exact Nat.lt_irrefl _ (numbered name id chain _ hname)

section Merge

variable {ca cb : StoredCatalogue}

/-- The merge of two catalogues shows what merging what they show gives. -/
theorem view_issue_merge (into : String)
    (hb : ∀ id chain n, cb.serial? id chain = some n → n < s.serial) :
    let shown := Catalogue.merge (ca.view s.memory) (cb.view s.memory)
    (ca.merge s.serial cb).view (s.issue into (ca.merge s.serial cb) shown).memory = shown := by
  intro shown
  refine StoredCatalogue.view_merge ?_ ?_ fun id chain n hn =>
    memory_issue_of_lt _ _ _ (hb id chain n hn)
  · intro id chain n hn
    rw [memory_issue_self, Catalogue.endpoint?_merge, StoredCatalogue.endpoint?_view, hn]
    rfl
  · intro id chain n hnew hn
    have hleft : ca.serial? id chain = none := by
      rw [StoredCatalogue.serial?, Table.get?_eq_none_iff.2 hnew, Option.bind_none]
    rw [memory_issue_self, Catalogue.endpoint?_merge, StoredCatalogue.endpoint?_view,
      StoredCatalogue.endpoint?_view, hleft, hn]
    rfl

/-- A merge shares what its right catalogue shares, of the endpoints that it takes from it. -/
theorem shares_issue_merge (numbered : s.Numbered) (hb : s.registers.get? right = some cb)
    {shown : Catalogue} (h : name ≠ into) :
    (s.issue into (ca.merge s.serial cb) shown).Shares into name id chain ↔
      (id ∈ ca.keys ∧ ca.serial? id chain = none) ∧ s.Shares right name id chain := by
  have hright : s.serial? right id chain = cb.serial? id chain := by
    rw [serial?, hb, Option.bind_some]
  simp only [shares_iff, issue, serial?_put, if_pos, if_neg h, StoredCatalogue.serial?_merge,
    hright]
  -- what is shared was stored before this merge
  have hold : s.serial? name id chain ≠ some s.serial := fun hn =>
    Nat.lt_irrefl _ (numbered name id chain _ hn)
  by_cases hid : id ∈ ca.keys
  · cases hca : ca.serial? id chain with
    | none => simp [hid]
    | some k => simpa [hid] using hold
  · have hnone (n : Nat) : ((cb.serial? id chain).map fun _ => s.serial) = some n →
        n = s.serial := by
      cases cb.serial? id chain <;> simp [eq_comm]
    simp only [hid, false_and, iff_false, not_exists, not_and]
    intro n hn hname
    exact hold (hnone n hn ▸ hname)

end Merge

/-! ### changes of a record -/

section Edit

variable {c : StoredCatalogue} {r : StoredOperation} {change : Edit} {m : Memory}

theorem rewrite_within_eq_ok {field : EndpointField} {text : String} :
    (s.rewrite id r (.within chain field text)).outcome = .ok m ↔
      ∃ n, r.serials.get? chain = some n ∧
        m = s.memory.set ⟨n, id, chain⟩ (field.set text (s.memory ⟨n, id, chain⟩)) := by
  rw [rewrite]
  cases r.serials.get? chain with
  | none => simp
  | some n => simp [eq_comm]

/-- The changed record shows the change. -/
theorem view_of_rewrite (hm : (s.rewrite id r change).outcome = .ok m)
    (fresh : ∀ chain n, r.serials.get? chain = some n → n < s.serial) :
    (r.edit s.serial change).view m id = change.apply (r.view s.memory id) := by
  cases change with
  | endpoint chain e =>
    cases hm
    exact StoredOperation.view_edit_endpoint e fun ch n hn => Nat.ne_of_lt (fresh ch n hn)
  | within chain field text =>
    obtain ⟨n, hn, rfl⟩ := rewrite_within_eq_ok.1 hm
    exact StoredOperation.view_set field text hn
  | type column => cases hm; cases column <;> rfl
  | method | comment => cases hm; rfl

/-- The cells of the other operations hold what they held. -/
theorem memory_of_rewrite_of_ne (hm : (s.rewrite id r change).outcome = .ok m) {j : String}
    (h : j ≠ id) : m ⟨n, j, chain⟩ = s.memory ⟨n, j, chain⟩ := by
  cases change with
  | endpoint chain e => cases hm; exact Memory.set_of_ne (by simp [h]) _
  | within chain field text =>
    obtain ⟨k, -, rfl⟩ := rewrite_within_eq_ok.1 hm
    exact Memory.set_of_ne (by simp [h]) _
  | method | comment | type => cases hm; rfl

/-- A change within an endpoint reaches the other catalogues that hold the endpoint, and any
other change reaches none of them. -/
theorem get?_put_rewrite_of_ne (numbered : s.Numbered) (hname : name ≠ of)
    (hof : ∀ chain, s.serial? of id chain = r.serials.get? chain)
    (hm : (s.rewrite id r change).outcome = .ok m) :
    (s.put of c m).get? name =
      if change.Reaches s of id name then (s.get? name).map (Catalogue.adjust id change.apply)
      else s.get? name := by
  cases change with
  | method | comment | type => cases hm; exact get?_put_of_ne hname fun _ _ _ _ => rfl
  | endpoint chain e =>
    cases hm
    refine get?_put_of_ne hname fun i ch n hn => Memory.set_of_ne (fun h => ?_) e
    cases h
    exact Nat.lt_irrefl _ (numbered name id chain _ hn)
  | within chain field text =>
    obtain ⟨k, hk, rfl⟩ := rewrite_within_eq_ok.1 hm
    rw [← hof] at hk
    by_cases reaches : (Edit.within chain field text).Reaches s of id name
    · obtain ⟨n, ha, hb⟩ := shares_iff.1 reaches
      rw [hk] at ha
      cases ha
      rw [if_pos reaches, get?_eq, put, Table.get?_insert, if_neg hname, get?_eq, Option.map_map]
      rw [serial?] at hb
      cases hc : s.registers.get? name with
      | none => rfl
      | some c' =>
        rw [hc] at hb
        exact congrArg some (StoredCatalogue.view_set field text hb)
    · rw [if_neg reaches]
      refine get?_put_of_ne hname fun i ch n hn => Memory.set_of_ne (fun h => ?_) _
      cases h
      exact reaches (shares_iff.2 ⟨k, hk, hn⟩)

/-- A change shows in its own catalogue and in those that it reaches, and nowhere else. -/
theorem get?_put_rewrite (numbered : s.Numbered) (hc : s.registers.get? of = some c)
    (hr : c.get? id = some r) (hm : (s.rewrite id r change).outcome = .ok m) (name : String) :
    (s.put of (c.insert id (r.edit s.serial change)) m).get? name =
      (Command.edit of id change).shows s name := by
  have hof (chain : String) : s.serial? of id chain = r.serials.get? chain := by
    rw [serial?, hc, Option.bind_some, StoredCatalogue.serial?_of_get? hr]
  rw [Command.shows]
  by_cases hname : name = of
  · subst hname
    rw [if_pos (.inl rfl), get?_put_self, get?_eq, hc, Option.map_some, Option.map_some]
    refine congrArg some (StoredCatalogue.view_insert hr (view_of_rewrite hm fun ch n hn => ?_) ?_)
    · exact numbered name id ch n ((hof ch).trans hn)
    · exact fun j x hj _ => StoredOperation.view_congr fun _ _ _ => memory_of_rewrite_of_ne hm hj
  · simp only [hname, false_or]
    exact get?_put_rewrite_of_ne numbered hname hof hm

/-- A changed catalogue shares what it shared, apart from an endpoint that is replaced. -/
theorem shares_put_edit (numbered : s.Numbered) (hc : s.registers.get? of = some c)
    (hr : c.get? id = some r) (hname : name ≠ of) {i : String} :
    (s.put of (c.insert id (r.edit s.serial change)) m).Shares of name i chain ↔
      ¬ (i = id ∧ change.renews chain) ∧ s.Shares of name i chain := by
  have hof : s.serial? of i chain = c.serial? i chain := by rw [serial?, hc, Option.bind_some]
  simp only [shares_iff, serial?_put, if_pos, if_neg hname, StoredCatalogue.serial?_edit hr, hof]
  split
  · next renewed =>
    refine iff_of_false ?_ fun h => h.1 renewed
    rintro ⟨n, hserial, hn⟩
    cases hserial
    exact Nat.lt_irrefl _ (numbered name i chain _ hn)
  · next h => simp only [h, not_false_eq_true, true_and]

end Edit

/-! ## a command, and commands in order -/

theorem stored_eq_ok {c : StoredCatalogue} :
    (s.stored name).outcome = .ok c ↔ s.registers.get? name = some c := by
  rw [stored]
  cases s.registers.get? name <;> simp

theorem run_extract_eq_ok {source : Source} :
    (s.run (.extract into source)).outcome = .ok t ↔
      ∃ c, source.extract.outcome = .ok c ∧ s.issue into (.ofCatalogue s.serial c) c = t := by
  simp only [run, Logged.outcome_bind_eq_ok, Logged.outcome_mapError_eq_ok, Logged.pure_eq,
    Except.ok.injEq]

theorem run_set_eq_ok {c : Catalogue} :
    (s.run (.set into c)).outcome = .ok t ↔ s.issue into (.ofCatalogue s.serial c) c = t := by
  simp only [run, Logged.pure_eq, Except.ok.injEq]

theorem run_merge_eq_ok :
    (s.run (.merge into left right)).outcome = .ok t ↔
      ∃ a b, s.registers.get? left = some a ∧ s.registers.get? right = some b ∧
        s.issue into (a.merge s.serial b)
          (Catalogue.merge (a.view s.memory) (b.view s.memory)) = t := by
  simp only [run, Logged.outcome_bind_eq_ok, stored_eq_ok, Except.ok.injEq, exists_and_left]

theorem run_edit_eq_ok {change : Edit} :
    (s.run (.edit of id change)).outcome = .ok t ↔
      ∃ c r m, s.registers.get? of = some c ∧ c.get? id = some r ∧
        (s.rewrite id r change).outcome = .ok m ∧
        s.put of (c.insert id (r.edit s.serial change)) m = t := by
  simp only [run, Logged.outcome_bind_eq_ok, stored_eq_ok, exists_and_left]
  refine exists_congr fun c => and_congr_right fun _ => ?_
  cases c.get? id with
  | none => simp
  | some r =>
    simp [Logged.outcome_bind_eq_ok]

/-- What is stored by a command has a number of its own or an earlier one. -/
theorem numbered_run (numbered : s.Numbered) {command : Command}
    (done : (s.run command).outcome = .ok t) : t.Numbered := by
  have hwhole (into : String) (c : Catalogue) :
      (s.issue into (.ofCatalogue s.serial c) c).Numbered :=
    numbered_put numbered fun id chain n hn => by
      rw [StoredCatalogue.serial?_ofCatalogue] at hn
      obtain ⟨_, -, rfl⟩ := Option.map_eq_some_iff.1 hn
      exact Nat.le_refl _
  cases command with
  | extract into source =>
    obtain ⟨c, -, rfl⟩ := run_extract_eq_ok.1 done
    exact hwhole into c
  | set into c =>
    obtain rfl := run_set_eq_ok.1 done
    exact hwhole into c
  | merge into left right =>
    obtain ⟨a, b, -, hb, rfl⟩ := run_merge_eq_ok.1 done
    refine numbered_put numbered fun id chain n hn => ?_
    obtain rfl | hn := StoredCatalogue.eq_or_of_serial?_merge hn
    · exact Nat.le_refl _
    · exact Nat.le_of_lt (numbered right id chain n (by rw [serial?, hb, Option.bind_some, hn]))
  | edit of id change =>
    obtain ⟨c, r, m, hc, hr, -, rfl⟩ := run_edit_eq_ok.1 done
    refine numbered_put numbered fun i chain n hn => ?_
    rw [StoredCatalogue.serial?_edit hr] at hn
    split at hn
    · cases hn
      exact Nat.le_refl _
    · exact Nat.le_of_lt (numbered of i chain n (by rw [serial?, hc, Option.bind_some, hn]))

/-- The sessions that commands lead to are numbered. -/
theorem numbered_perform (numbered : s.Numbered) (commands : List Command) :
    (s.perform commands).Numbered := by
  induction commands generalizing s with
  | nil => exact numbered
  | cons command commands ih =>
    rw [perform]
    split
    · next done => exact ih (numbered_run numbered done)
    · exact ih numbered

/-- Where a record is, a change of it can be carried out if there is what is to be changed. -/
theorem exists_rewrite_iff {r : StoredOperation} {change : Edit} :
    (∃ m, (s.rewrite id r change).outcome = .ok m) ↔ change.Applies (r.view s.memory id) := by
  cases change with
  | within chain field text =>
    simp only [rewrite_within_eq_ok, Edit.Applies, StoredOperation.view, Table.keys_mapWithKey,
      ← Table.isSome_get?_iff, Option.isSome_iff_exists]
    constructor
    · rintro ⟨_, n, hn, -⟩
      exact ⟨n, hn⟩
    · rintro ⟨n, hn⟩
      exact ⟨_, n, hn, rfl⟩
  | method | comment | type | endpoint => exact iff_of_true ⟨_, rfl⟩ trivial

/-- A command is carried out exactly if it applies. -/
theorem exists_run_iff {command : Command} :
    (∃ t, (s.run command).outcome = .ok t) ↔ command.Applies s := by
  cases command with
  | extract into source =>
    simp only [run_extract_eq_ok, Command.Applies]
    exact ⟨fun ⟨_, c, hc, _⟩ => ⟨c, hc⟩, fun ⟨c, hc⟩ => ⟨_, c, hc, rfl⟩⟩
  | set into c => exact iff_of_true ⟨_, run_set_eq_ok.2 rfl⟩ trivial
  | merge into left right =>
    simp only [run_merge_eq_ok, Command.Applies, get?, Option.isSome_map, Option.isSome_iff_exists]
    exact ⟨fun ⟨_, a, b, ha, hb, _⟩ => ⟨⟨a, ha⟩, b, hb⟩,
      fun ⟨⟨a, ha⟩, b, hb⟩ => ⟨_, a, b, ha, hb, rfl⟩⟩
  | edit of id change =>
    simp only [run_edit_eq_ok, Command.Applies, get?]
    constructor
    · rintro ⟨_, c, r, m, hc, hr, hm, -⟩
      refine ⟨c.view s.memory, r.view s.memory id, by rw [hc, Option.map_some], ?_,
        exists_rewrite_iff.1 ⟨m, hm⟩⟩
      rw [StoredCatalogue.get?_view, hr, Option.map_some]
    · rintro ⟨c', r', hc', hr', happlies⟩
      obtain ⟨c, hc, rfl⟩ := Option.map_eq_some_iff.1 hc'
      rw [StoredCatalogue.get?_view] at hr'
      obtain ⟨r, hr, rfl⟩ := Option.map_eq_some_iff.1 hr'
      obtain ⟨m, hm⟩ := exists_rewrite_iff.2 happlies
      exact ⟨_, c, r, m, hc, hr, hm, rfl⟩

/-- What a command leaves of a session whose endpoints are numbered. -/
theorem follows_of_run (numbered : s.Numbered) {command : Command}
    (done : (s.run command).outcome = .ok t) : s.Follows command t := by
  cases command with
  | extract into source =>
    obtain ⟨c, hc, rfl⟩ := run_extract_eq_ok.1 done
    refine ⟨fun name => ?_, fun name id chain h => ?_, fun a b id chain => shares_put_of_ne⟩
    · rw [get?_issue numbered (view_issue_ofCatalogue s into c), Command.shows, hc]
      rfl
    · exact iff_of_false (not_shares_ofCatalogue numbered h) nofun
  | set into c =>
    obtain rfl := run_set_eq_ok.1 done
    refine ⟨fun name => ?_, fun name id chain h => ?_, fun a b id chain => shares_put_of_ne⟩
    · exact get?_issue numbered (view_issue_ofCatalogue s into c) name
    · exact iff_of_false (not_shares_ofCatalogue numbered h) nofun
  | merge into left right =>
    obtain ⟨a, b, ha, hb, rfl⟩ := run_merge_eq_ok.1 done
    refine ⟨fun name => ?_, fun name id chain h => ?_, fun a b id chain => shares_put_of_ne⟩
    · have hold (id chain : String) (n : Nat) (hn : b.serial? id chain = some n) :
          n < s.serial := numbered right id chain n (by rw [serial?, hb, Option.bind_some, hn])
      rw [get?_issue numbered (view_issue_merge into hold), Command.shows, get?_eq s left,
        get?_eq s right, ha, hb]
      rfl
    · rw [Command.Hands, get?_eq, ha]
      simp only [Option.map_some, Option.some.injEq, exists_eq_left', Command.target] at h ⊢
      rw [shares_issue_merge numbered hb h, StoredCatalogue.endpoint?_view, Option.map_eq_none_iff,
        StoredCatalogue.view, Table.keys_mapWithKey]
  | edit of id change =>
    obtain ⟨c, r, m, hc, hr, hm, rfl⟩ := run_edit_eq_ok.1 done
    exact ⟨get?_put_rewrite numbered hc hr hm,
      fun name i chain h => shares_put_edit numbered hc hr h, fun a b i chain => shares_put_of_ne⟩

/-- Whatever commands have been carried out, a further one is carried out exactly if it applies,
and then it shows in the catalogue that it stores or changes.  A change within an endpoint shows
in the other catalogues that share the endpoint too, and nothing else shows in another catalogue.
Catalogues come to share an endpoint in one way: where an operation is in both of the catalogues
that are merged, an endpoint that the left one lacks is that of the right one. -/
theorem perform_follows (commands : List Command) (command : Command) :
    let s := ({} : Session).perform commands
    (match (s.run command).outcome with
      | .ok t => command.Applies s ∧ s.Follows command t
      | .error _ => ¬ command.Applies s) ∧
    ∀ a b id chain, ¬ ({} : Session).Shares a b id chain := by
  intro s
  refine ⟨?_, fun a b id chain h => nomatch h.1⟩
  split
  · next t done =>
    exact ⟨exists_run_iff.1 ⟨t, done⟩,
      follows_of_run (numbered_perform numbered_start commands) done⟩
  · next e failed =>
    rw [← exists_run_iff]
    rintro ⟨t, done⟩
    cases failed.symm.trans done

/-- An operation on two chains, each in a catalogue of its own, and the two merged. -/
def splitBalance : List Command :=
  let record (chain : String) : OperationTypes :=
    { method := .get, endpoint := .singleton chain ⟨"/balance", "/balance"⟩ }
  [.set "left" (.singleton "Balance" (record "kyve")),
    .set "right" (.singleton "Balance" (record "evmos")),
    .merge "both" "left" "right"]

/-- The merged catalogue changes with the right one. -/
theorem edit_carried :
    let s := ({} : Session).perform splitBalance
    ∃ t, (s.run (.edit "right" "Balance" (.within "evmos" .path "/moved"))).outcome = .ok t ∧
      (s.get? "both").bind (·.endpoint? "Balance" "evmos") = some ⟨"/balance", "/balance"⟩ ∧
      (t.get? "both").bind (·.endpoint? "Balance" "evmos") = some ⟨"/moved", "/balance"⟩ :=
  ⟨_, rfl, by decide, by decide⟩

end Session

end ChainApi
