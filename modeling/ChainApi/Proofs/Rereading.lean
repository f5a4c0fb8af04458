import ChainApi.Document.Reader
import ChainApi.Document.Writer

/-!
# ChainApi.Proofs.Rereading

What a reader accepts is accepted again where it is written, and comes to the same record.
A reader does not leave anything to the second reading: fields that were given under
another name, as bytes or as numbers are written under their name in the description and
as text, and what was left out stays out.

The lemma on each record follows from those on its fields.  Schemas go by the depth to
which they are read; since a written schema is no knot, it may be read inside any others.

* `memberOptional_again`, `checkTable_again`, `checkList_again` — fields, tables and lists
  of records that are read again;
* `Schema.read_again`, `Parameter.read_again`, `Response.read_again`,
  `Operation.read_again`, `PathItem.read_again` — one lemma per record;
* `Document.read_again` — descriptions, in their data with the same knots.
-/

namespace ChainApi

namespace Value

variable {α : Type} {read again : Value → Checked α} {write : α → Value}

/-! ## fields -/

/-- A field that was read is read again where it is written. -/
theorem memberOptional_again (write : α → Value) {v w : Value} {name other : String}
    {o : Option α} (h : v.memberOptional name other read = .accepted o)
    (settles : ∀ u a, read u = .accepted a → again (write a) = .accepted a)
    (nonnull : ∀ a, write a ≠ .null) (hname : w.get? name = o.map write)
    (hother : w.get? other = none ∨ other = name) :
    w.memberOptional name other again = .accepted o := by
  rw [memberOptional, fieldOr, field?] at h ⊢
  rw [hname]
  cases o with
  | none =>
    have hnone : w.get? other = none := hother.elim id fun h => h ▸ hname
    rw [Option.map_none, hnone]
    rfl
  | some a =>
    have hread : ∃ u, read u = .accepted a := by
      split at h
      · exact ⟨_, (checkOptional_eq_some.1 (Checked.under_eq_accepted.1 h)).2⟩
      · cases h
    obtain ⟨u, hu⟩ := hread
    rw [Option.map_some]
    exact Checked.under_eq_accepted.2 (checkOptional_eq_some.2 ⟨nonnull a, settles u a hu⟩)

/-- A text is read again where it is written. -/
theorem memberText_again {v w : Value} {name other : String} {o : Option String}
    (h : v.memberOptional name other checkText = .accepted o)
    (hname : w.get? name = o.map .str) (hother : w.get? other = none ∨ other = name) :
    w.memberOptional name other checkText = .accepted o :=
  memberOptional_again .str h (fun _ _ _ => rfl) (by simp) hname hother

/-! ## tables and lists -/

/-- A written table is read as it is if each of its values is. -/
theorem checkTable_ofTable {t : Table α}
    (h : ∀ e ∈ t.entries, again (write e.2) = .accepted e.2) :
    checkTable again (ofTable write t) = .accepted t := by
  refine Checked.map_eq_accepted.2 ⟨t.entries, Checked.all_eq_accepted.2 ?_, t.ofList_entries⟩
  rw [List.map_map, List.map_map]
  refine List.map_congr_left fun e he => ?_
  refine Checked.seq_eq_accepted.2 ⟨_, e.2, rfl, Checked.under_eq_accepted.2 (h e he), rfl⟩

/-- A table that was read is read again where it is written. -/
theorem checkTable_again {v : Value} {t : Table α} (h : checkTable read v = .accepted t)
    (settles : ∀ u a, read u = .accepted a → again (write a) = .accepted a) :
    checkTable again (ofTable write t) = .accepted t :=
  checkTable_ofTable fun e he => (exists_of_checkTable h e he).elim fun u hu => settles u e.2 hu

/-- A list that was read is read again where it is written. -/
theorem checkList_again {v : Value} {as : List α} (h : checkList read v = .accepted as)
    (settles : ∀ u a, read u = .accepted a → again (write a) = .accepted a) :
    checkList again (.list (as.map write)) = .accepted as := by
  cases v with
  | list vs =>
    have hread (a : α) (ha : a ∈ as) : ∃ u, read u = .accepted a := by
      have hmem := List.mem_map_of_mem (f := Checked.accepted) ha
      rw [← Checked.all_eq_accepted.1 h, List.mem_mapIdx] at hmem
      obtain ⟨i, hi, hu⟩ := hmem
      exact ⟨vs[i], Checked.under_eq_accepted.1 hu⟩
    refine Checked.all_eq_accepted.2 (List.ext_getElem (by simp) fun i _ hi => ?_)
    simp only [List.getElem_mapIdx, List.getElem_map]
    obtain ⟨u, hu⟩ := hread _ (List.getElem_mem (by simpa using hi))
    exact Checked.under_eq_accepted.2 (settles u _ hu)
  | _ => cases h

end Value

open Value

variable {knots : Knots} {depth : Nat} {v : Value}

theorem Knots.expose_object (knots : Knots) (ms : List (String × Value)) :
    knots.expose (object ms) = object ms := rfl

theorem Knots.expose_record (knots : Knots) (ms : List (String × Option Value)) :
    knots.expose (record ms) = record ms := rfl

theorem Value.checkRecord_record (ms : List (String × Option Value)) (x : Checked α) :
    (record ms).checkRecord x = x := rfl

/-! ## schemas -/

/-- A schema is accepted if each of its fields is. -/
theorem Schema.mk_eq_accepted {type title description ref : Checked (Option String)}
    {properties : Checked (Option (List (String × Schema)))} {items : Checked (Option Schema)}
    {s : Schema} :
    (Schema.mk <$> type <*> title <*> description <*> properties <*> items <*> ref) =
        .accepted s ↔
      type = .accepted s.type ∧ title = .accepted s.title ∧
        description = .accepted s.description ∧ properties = .accepted s.properties ∧
        items = .accepted s.items ∧ ref = .accepted s.ref := by
  simp only [Checked.seq_eq_accepted, Checked.map_eq_accepted]
  constructor
  · rintro ⟨_, _, ⟨_, _, ⟨_, _, ⟨_, _, ⟨_, _, ⟨_, ha, rfl⟩, hb, rfl⟩, hc, rfl⟩, hd, rfl⟩, he, rfl⟩,
      hf, rfl⟩
    exact ⟨ha, hb, hc, hd, he, hf⟩
  · obtain ⟨_, _, _, _, _, _⟩ := s
    rintro ⟨ha, hb, hc, hd, he, hf⟩
    exact ⟨_, _, ⟨_, _, ⟨_, _, ⟨_, _, ⟨_, _, ⟨_, ha, rfl⟩, hb, rfl⟩, hc, rfl⟩, hd, rfl⟩, he, rfl⟩,
      hf, rfl⟩

theorem Schema.toValue_ne_null (s : Schema) : s.toValue ≠ .null := by
  rw [toValue_eq]
  exact record_ne_null _

/-- A schema that was read is read again where it is written, whatever it was inside of. -/
theorem Schema.read_again {opened : List Nat} {s : Schema}
    (h : Schema.read knots depth opened v = .accepted s) (opened' : List Nat) :
    Schema.read knots depth opened' s.toValue = .accepted s := by
  induction depth generalizing opened v s opened' with
  | zero => cases h
  | succ depth ih =>
    rw [Schema.read] at h
    split at h
    · cases h
    · obtain ⟨-, h⟩ := checkRecord_eq_accepted.1 h
      obtain ⟨htype, htitle, hdescription, hproperties, hitems, href⟩ := mk_eq_accepted.1 h
      have member (name : String) : (record s.members).get? name = (s.members.lookup name).join :=
        get?_record (by simp [members]) name
      have hopen : ¬ (record s.members).isOpen opened' := Bool.false_ne_true
      rw [toValue_eq, Schema.read, if_neg hopen]
      simp only [Knots.expose_record, checkRecord_record]
      refine mk_eq_accepted.2 ⟨?type, ?title, ?description, ?properties, ?items, ?ref⟩
      case type => exact memberText_again htype (member _) (.inr rfl)
      case title => exact memberText_again htitle (member _) (.inr rfl)
      case description => exact memberText_again hdescription (member _) (.inr rfl)
      case properties =>
        refine memberOptional_again (fun ps => object (ps.map fun p => (p.1, p.2.toValue)))
          hproperties (fun u ps hu => ?_) (fun _ => object_ne_null _) (member _) (.inr rfl)
        obtain ⟨t, ht, rfl⟩ := Checked.map_eq_accepted.1 hu
        exact Checked.map_eq_accepted.2 ⟨t, checkTable_again ht fun _ _ hs => ih hs _, rfl⟩
      case items =>
        exact memberOptional_again toValue hitems (fun u a hu => ih hu _) toValue_ne_null
          (member _) (.inr rfl)
      case ref => exact memberText_again href (member _) (.inl (member _))

/-! ## parameters, responses and operations -/

/-- A parameter is accepted if each of its fields is. -/
theorem Parameter.mk_eq_accepted
    {name location description format ref : Checked (Option String)}
    {schema : Checked (Option Schema)} {p : Parameter} :
    (Parameter.mk <$> name <*> location <*> description <*> format <*> schema <*> ref) =
        .accepted p ↔
      name = .accepted p.name ∧ location = .accepted p.location ∧
        description = .accepted p.description ∧ format = .accepted p.format ∧
        schema = .accepted p.schema ∧ ref = .accepted p.ref := by
  simp only [Checked.seq_eq_accepted, Checked.map_eq_accepted]
  constructor
  · rintro ⟨_, _, ⟨_, _, ⟨_, _, ⟨_, _, ⟨_, _, ⟨_, ha, rfl⟩, hb, rfl⟩, hc, rfl⟩, hd, rfl⟩, he, rfl⟩,
      hf, rfl⟩
    exact ⟨ha, hb, hc, hd, he, hf⟩
  · obtain ⟨_, _, _, _, _, _⟩ := p
    rintro ⟨ha, hb, hc, hd, he, hf⟩
    exact ⟨_, _, ⟨_, _, ⟨_, _, ⟨_, _, ⟨_, _, ⟨_, ha, rfl⟩, hb, rfl⟩, hc, rfl⟩, hd, rfl⟩, he, rfl⟩,
      hf, rfl⟩

/-- A parameter that was read is read again where it is written. -/
theorem Parameter.read_again {p : Parameter}
    (h : Parameter.read knots depth v = .accepted p) :
    Parameter.read knots depth p.toValue = .accepted p := by
  obtain ⟨-, h⟩ := checkRecord_eq_accepted.1 h
  obtain ⟨hname, hlocation, hdescription, hformat, hschema, href⟩ := mk_eq_accepted.1 h
  have member (name : String) : (record p.members).get? name = (p.members.lookup name).join :=
    get?_record (by simp [members]) name
  rw [toValue, Parameter.read, Knots.expose_record, checkRecord_record]
  refine mk_eq_accepted.2 ⟨?name, ?location, ?description, ?format, ?schema, ?ref⟩
  case name => exact memberText_again hname (member _) (.inr rfl)
  case location => exact memberText_again hlocation (member _) (.inl (member _))
  case description => exact memberText_again hdescription (member _) (.inr rfl)
  case format => exact memberText_again hformat (member _) (.inr rfl)
  case schema =>
    exact memberOptional_again Schema.toValue hschema (fun u s hs => Schema.read_again hs _)
      Schema.toValue_ne_null (member _) (.inl (member _))
  case ref => exact memberText_again href (member _) (.inl (member _))

/-- A response is accepted if each of its fields is. -/
theorem Response.mk_eq_accepted {description : Checked String} {schema : Checked (Option Schema)}
    {r : Response} :
    (Response.mk <$> description <*> schema) = .accepted r ↔
      description = .accepted r.description ∧ schema = .accepted r.schema := by
  simp only [Checked.seq_eq_accepted, Checked.map_eq_accepted]
  constructor
  · rintro ⟨_, _, ⟨_, ha, rfl⟩, hb, rfl⟩
    exact ⟨ha, hb⟩
  · obtain ⟨_, _⟩ := r
    rintro ⟨ha, hb⟩
    exact ⟨_, _, ⟨_, ha, rfl⟩, hb, rfl⟩

/-- A response that was read is read again where it is written. -/
theorem Response.read_again {r : Response}
    (h : Response.read knots depth v = .accepted r) :
    Response.read knots depth r.toValue = .accepted r := by
  obtain ⟨-, h⟩ := checkRecord_eq_accepted.1 h
  obtain ⟨-, hschema⟩ := mk_eq_accepted.1 h
  have member (name : String) : (record r.members).get? name = (r.members.lookup name).join :=
    get?_record (by simp [members]) name
  rw [toValue, Response.read, Knots.expose_record, checkRecord_record]
  refine mk_eq_accepted.2 ⟨?description, ?schema⟩
  case description => exact memberOr_of_get? (member _) rfl
  case schema =>
    exact memberOptional_again Schema.toValue hschema (fun u s hs => Schema.read_again hs _)
      Schema.toValue_ne_null (member _) (.inl (member _))

/-- Keys with different spellings are each replaced by their spelling. -/
theorem Value.spellKeys_of_nodup {es : List (Value × Value)}
    (nodup : (es.map fun e => e.1.text).Nodup) :
    spellKeys es = es.map fun e => (.str e.1.text, e.2) := by
  rw [spellKeys, Table.entries_ofList (by simpa [List.map_map, Function.comp_def] using nodup),
    List.map_map]
  rfl

/-- Texts are not too long to be spelled. -/
theorem Value.hasLongKey_texts (ms : List (String × Value)) :
    hasLongKey (ms.map fun m => (.str m.1, m.2)) = false := by
  simp [hasLongKey, isUnspellable]

/-- A table of responses is read as it is if each of them is. -/
theorem Response.readTable_ofTable {t : Table Response}
    (h : ∀ e ∈ t.entries, Response.read knots depth e.2.toValue = .accepted e.2) :
    Response.readTable knots depth (ofTable toValue t) = .accepted t := by
  have hspelled :
      spellKeys ((t.entries.map fun e => (e.1, e.2.toValue)).map fun m => (.str m.1, m.2)) =
        (t.entries.map fun e => (e.1, e.2.toValue)).map fun m => (.str m.1, m.2) := by
    refine (spellKeys_of_nodup ?_).trans ?_
    · simpa [List.map_map, Function.comp_def] using t.nodup_keys
    · simp [List.map_map, Function.comp_def]
  rw [readTable, ofTable, Knots.expose_object, object]
  simp only [hasLongKey_texts, hspelled]
  exact checkTable_ofTable h

/-- What stands in a table of responses that was read has been read. -/
theorem Response.exists_of_readTable {t : Table Response}
    (h : Response.readTable knots depth v = .accepted t) :
    ∀ e ∈ t.entries, ∃ u, Response.read knots depth u = .accepted e.2 := by
  rw [readTable] at h
  split at h
  · split at h
    · cases h
    · exact exists_of_checkTable h
  · cases h

/-- An operation is accepted if each of its fields is. -/
theorem Operation.mk_eq_accepted {operationId summary : Checked (Option String)}
    {parameters : Checked (Option (List Parameter))} {responses : Checked (Table Response)}
    {op : Operation} :
    (Operation.mk <$> operationId <*> summary <*> parameters <*> responses) = .accepted op ↔
      operationId = .accepted op.operationId ∧ summary = .accepted op.summary ∧
        parameters = .accepted op.parameters ∧ responses = .accepted op.responses := by
  simp only [Checked.seq_eq_accepted, Checked.map_eq_accepted]
  constructor
  · rintro ⟨_, _, ⟨_, _, ⟨_, _, ⟨_, ha, rfl⟩, hb, rfl⟩, hc, rfl⟩, hd, rfl⟩
    exact ⟨ha, hb, hc, hd⟩
  · obtain ⟨_, _, _, _⟩ := op
    rintro ⟨ha, hb, hc, hd⟩
    exact ⟨_, _, ⟨_, _, ⟨_, _, ⟨_, ha, rfl⟩, hb, rfl⟩, hc, rfl⟩, hd, rfl⟩

/-- An operation that was read is read again where it is written. -/
theorem Operation.read_again {op : Operation} (h : Operation.read knots v = .accepted op) :
    Operation.read knots op.toValue = .accepted op := by
  obtain ⟨-, h⟩ := checkRecord_eq_accepted.1 h
  obtain ⟨hid, hsummary, hparameters, hresponses⟩ := mk_eq_accepted.1 h
  have member (name : String) : (record op.members).get? name = (op.members.lookup name).join :=
    get?_record (by simp [members]) name
  rw [toValue, Operation.read, Knots.expose_record, checkRecord_record]
  refine mk_eq_accepted.2 ⟨?operationId, ?summary, ?parameters, ?responses⟩
  case operationId => exact memberText_again hid (member _) (.inl (member _))
  case summary => exact memberText_again hsummary (member _) (.inr rfl)
  case parameters =>
    refine memberOptional_again (fun ps => .list (ps.map Parameter.toValue)) hparameters
      (fun u ps hu => ?_) (by simp) (member _) (.inr rfl)
    exact checkList_again hu fun _ _ => Parameter.read_again
  case responses =>
    refine memberOr_of_get? (member _) (Response.readTable_ofTable fun e he => ?_)
    obtain hempty | ⟨u, hu⟩ := eq_or_of_memberOr hresponses
    · rw [hempty] at he
      cases he
    · obtain ⟨w, hw⟩ := Response.exists_of_readTable hu e he
      exact Response.read_again hw

/-! ## paths -/

/-- What is kept of the members of a path that are no fields of it. -/
theorem PathItem.mem_of_extraOfEntries {es : List (Value × Value)} {t : Table Value}
    (h : extraOfEntries es = .accepted t) {e : String × Value} (he : e ∈ t.entries) :
    (.str e.1, e.2) ∈ es ∧ e.1 ≠ "get" ∧ e.1 ≠ "post" := by
  obtain ⟨as, has, rfl⟩ := Checked.map_eq_accepted.1 h
  have hmem := List.mem_map_of_mem (f := Checked.accepted) (Table.mem_of_mem_entries_ofList he)
  rw [← Checked.all_eq_accepted.1 has] at hmem
  obtain ⟨⟨k, u⟩, hd, hread⟩ := List.mem_map.1 hmem
  obtain ⟨hin, hfields⟩ := List.mem_filter.1 hd
  cases k with
  | str k =>
    cases hread
    exact ⟨hin, by simpa using hfields⟩
  | _ => cases hread

/-- A path is accepted if each of its fields is. -/
theorem PathItem.mk_eq_accepted {get post : Checked (Option Operation)}
    {extra : Checked (Table Value)} {item : PathItem} :
    (PathItem.mk <$> get <*> post <*> extra) = .accepted item ↔
      get = .accepted item.get ∧ post = .accepted item.post ∧ extra = .accepted item.extra := by
  simp only [Checked.seq_eq_accepted, Checked.map_eq_accepted]
  constructor
  · rintro ⟨_, _, ⟨_, _, ⟨_, ha, rfl⟩, hb, rfl⟩, hc, rfl⟩
    exact ⟨ha, hb, hc⟩
  · obtain ⟨_, _, _⟩ := item
    rintro ⟨ha, hb, hc⟩
    exact ⟨_, _, ⟨_, _, ⟨_, ha, rfl⟩, hb, rfl⟩, hc, rfl⟩

/-- The entries of a written path. -/
theorem PathItem.entries_toValue (item : PathItem) :
    item.toValue.entries = (record item.fields).entries ++
      item.extra.entries.map fun e => (.str e.1, e.2) := by
  have hextra : (item.extra.entries.map fun e => (e.1, some e.2)).filterMap
      (fun m => m.2.map fun v => (m.1, v)) = item.extra.entries := by
    rw [List.filterMap_map]
    exact List.filterMap_some
  show (record _).entries = _
  rw [members, record, List.filterMap_append, hextra]
  exact List.map_append

/-- The other members of a path are kept again where they are written. -/
theorem PathItem.extraOfEntries_toValue {item : PathItem}
    (h : ∀ e ∈ item.extra.entries, e.1 ≠ "get" ∧ e.1 ≠ "post") :
    extraOfEntries item.toValue.entries = .accepted item.extra := by
  have hfields : (record item.fields).entries.filter
      (fun e => e.1 ≠ .str "get" ∧ e.1 ≠ .str "post") = [] := by
    rw [fields]
    cases item.get <;> cases item.post <;> simp [record, object, entries]
  have hextra : (item.extra.entries.map fun e => ((.str e.1, e.2) : Value × Value)).filter
      (fun e => e.1 ≠ .str "get" ∧ e.1 ≠ .str "post") =
        item.extra.entries.map fun e => (.str e.1, e.2) := by
    rw [List.filter_eq_self]
    rintro _ he
    obtain ⟨e, hmem, rfl⟩ := List.mem_map.1 he
    simpa using h e hmem
  rw [extraOfEntries, entries_toValue, List.filter_append, hfields, hextra, List.nil_append,
    List.map_map]
  exact Checked.map_eq_accepted.2 ⟨item.extra.entries, Checked.all_eq_accepted.2 rfl,
    item.extra.ofList_entries⟩

/-- The members of a written path are different. -/
theorem PathItem.nodup_members {item : PathItem}
    (h : ∀ e ∈ item.extra.entries, e.1 ≠ "get" ∧ e.1 ≠ "post") :
    (item.members.map Prod.fst).Nodup := by
  have hkeys : item.members.map Prod.fst = "get" :: "post" :: item.extra.keys := by
    simp [members, fields, Table.keys]
  have hnew (name : String) (hname : name = "get" ∨ name = "post") : name ∉ item.extra.keys := by
    intro hin
    obtain ⟨e, he, rfl⟩ := List.mem_map.1 hin
    exact hname.elim (h e he).1 (h e he).2
  rw [hkeys]
  exact List.nodup_cons.2 ⟨by simp [hnew], List.nodup_cons.2 ⟨by simp [hnew],
    item.extra.nodup_keys⟩⟩

/-- The fields of a path have whole names. -/
theorem PathItem.any_isHalved_toValue (item : PathItem) :
    item.toValue.entries.any (·.1.isHalved) =
      item.extra.entries.any fun e => (Value.str e.1).isHalved := by
  have hnames : Text.hasHalf "get" = false ∧ Text.hasHalf "post" = false :=
    ⟨Text.hasHalf_of_not_mem (by decide), Text.hasHalf_of_not_mem (by decide)⟩
  have hfields : (record item.fields).entries.any (·.1.isHalved) = false := by
    rw [fields]
    cases item.get <;> cases item.post <;> simp [record, object, entries, isHalved, hnames]
  rw [entries_toValue, List.any_append, hfields, Bool.false_or, List.any_map]
  rfl

/-- A path that was read is read again where it is written. -/
theorem PathItem.read_again {item : PathItem} (h : PathItem.read knots v = .accepted item) :
    PathItem.read knots item.toValue = .accepted item := by
  obtain ⟨-, h⟩ := checkRecord_eq_accepted.1 h
  split at h
  · cases h
  · next whole =>
    obtain ⟨hget, hpost, hextra⟩ := mk_eq_accepted.1 h
    have hother (e : String × Value) (he : e ∈ item.extra.entries) :
        (.str e.1, e.2) ∈ (knots.expose v).entries ∧ e.1 ≠ "get" ∧ e.1 ≠ "post" :=
      mem_of_extraOfEntries hextra he
    have member (name : String) :
        (record item.members).get? name = (item.members.lookup name).join :=
      get?_record (nodup_members fun e he => (hother e he).2) name
    have hwhole : ¬ item.toValue.entries.any (·.1.isHalved) := by
      rw [any_isHalved_toValue]
      intro hany
      obtain ⟨e, he, hhalved⟩ := List.any_eq_true.1 hany
      exact whole (List.any_eq_true.2 ⟨_, (hother e he).1, hhalved⟩)
    rw [toValue] at hwhole
    rw [toValue, PathItem.read, Knots.expose_record, checkRecord_record, if_neg hwhole]
    refine mk_eq_accepted.2 ⟨?get, ?post, ?extra⟩
    case get =>
      exact memberOptional_again Operation.toValue hget (fun _ _ => Operation.read_again)
        (fun _ => record_ne_null _) (member _) (.inr rfl)
    case post =>
      exact memberOptional_again Operation.toValue hpost (fun _ _ => Operation.read_again)
        (fun _ => record_ne_null _) (member _) (.inr rfl)
    case extra => exact extraOfEntries_toValue fun e he => (hother e he).2

/-! ## descriptions -/

/-- A description is accepted if each of its fields is. -/
theorem Document.mk_eq_accepted {swagger : Checked (Option String)} {info : Checked Value}
    {paths : Checked (Table PathItem)} {definitions : Checked (Table Schema)}
    {parameters : Checked (Table Parameter)} {doc : Document} :
    (Document.mk <$> swagger <*> info <*> paths <*> definitions <*> parameters) =
        .accepted doc ↔
      swagger = .accepted doc.swagger ∧ info = .accepted doc.info ∧
        paths = .accepted doc.paths ∧ definitions = .accepted doc.definitions ∧
        parameters = .accepted doc.parameters := by
  simp only [Checked.seq_eq_accepted, Checked.map_eq_accepted]
  constructor
  · rintro ⟨_, _, ⟨_, _, ⟨_, _, ⟨_, _, ⟨_, ha, rfl⟩, hb, rfl⟩, hc, rfl⟩, hd, rfl⟩, he, rfl⟩
    exact ⟨ha, hb, hc, hd, he⟩
  · obtain ⟨_, _, _, _, _⟩ := doc
    rintro ⟨ha, hb, hc, hd, he⟩
    exact ⟨_, _, ⟨_, _, ⟨_, _, ⟨_, _, ⟨_, ha, rfl⟩, hb, rfl⟩, hc, rfl⟩, hd, rfl⟩, he, rfl⟩

/-- A table that was read, if there was one, is read again where it is written. -/
theorem memberTable_again {read : Value → Checked α} (write : α → Value) {w : Value}
    {name : String} {t : Table α}
    (h : v.memberOr name ∅ (fun u => checkTable read (knots.expose u)) = .accepted t)
    (settles : ∀ u a, read u = .accepted a → read (write a) = .accepted a)
    (hname : w.get? name = some (ofTable write t)) :
    w.memberOr name ∅ (fun u => checkTable read (knots.expose u)) = .accepted t := by
  refine memberOr_of_get? hname ?_
  obtain rfl | ⟨u, hu⟩ := eq_or_of_memberOr h
  · exact checkTable_ofTable nofun
  · exact checkTable_again hu settles

/-- A mapping that is read as it is is some mapping. -/
theorem Value.exists_of_checkMapping {w : Value} (h : v.checkMapping = .accepted w) :
    ∃ es, w = .map es := by
  cases v with
  | map es => cases h; exact ⟨es, rfl⟩
  | _ => cases h

/-- A description that was read is read again where it is written. -/
theorem Document.read_again {data : Data} {doc : Document}
    (h : Document.read data = .accepted doc) :
    Document.read ⟨doc.toValue, data.knots⟩ = .accepted doc := by
  obtain ⟨-, h⟩ := checkRecord_eq_accepted.1 h
  obtain ⟨hswagger, hinfo, hpaths, hdefinitions, hparameters⟩ := mk_eq_accepted.1 h
  have member (name : String) : (record doc.members).get? name = (doc.members.lookup name).join :=
    get?_record (by simp [members]) name
  rw [toValue, Document.read, checkRecord_record]
  refine mk_eq_accepted.2 ⟨?swagger, ?info, ?paths, ?definitions, ?parameters⟩
  case swagger =>
    have hversion : (record doc.members).get? "swagger" = doc.swagger.map .str := member _
    cases hs : doc.swagger with
    | none => exact memberOr_of_get?_eq_none (by rw [hversion, hs, Option.map_none])
    | some version => exact memberOr_of_get? (by rw [hversion, hs, Option.map_some]) rfl
  case info =>
    refine memberOr_of_get? (member _) ?_
    obtain hdefault | ⟨u, hu⟩ := eq_or_of_memberOr hinfo
    · rw [hdefault]
      rfl
    · obtain ⟨es, hes⟩ := exists_of_checkMapping hu
      rw [hes]
      rfl
  case paths =>
    exact memberTable_again PathItem.toValue hpaths (fun _ _ => PathItem.read_again) (member _)
  case definitions =>
    exact memberTable_again Schema.toValue hdefinitions (fun _ _ hs => Schema.read_again hs _)
      (member _)
  case parameters =>
    exact memberTable_again Parameter.toValue hparameters (fun _ _ => Parameter.read_again)
      (member _)

end ChainApi
