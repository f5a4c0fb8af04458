import ChainApi.Proofs.Locality
import ChainApi.Proofs.Lockstep
import ChainApi.Proofs.Reader

/-!
# ChainApi.Proofs.TypeReader

The written form of a type tells the type.  A primitive type is a word, an array stands in
angle brackets, and the properties of an object stand on lines of their own between braces,
so that the first characters of a type tell its kind.  A property begins with its comment or
with its name; the name ends at the first colon and the comment at the first mark that
closes a comment, which is why neither may hold such a mark itself.  Lines do not count: a
comment may have several of them, and so has the type of a property if it is an object.

* `TypeExpr.reader` — takes a type, nested to a given depth;
* `TypeExpr.Alike.reads` — it gets back the type, up to empty comments, which are not written;
* `TypeExpr.read?` — the type that a text was written from;
* `Schema.express_keeps` — the texts in a type are those of the schemas that are come upon;
* `Schema.text_faithful` — so the types of schemas can be told by how they are written.
-/

namespace ChainApi

open Reader Relation

/-! ## rules -/

/-- A name of letters, digits and underscores. -/
def IsWord (name : String) : Prop :=
  name ≠ "" ∧ ∀ c ∈ name.toList, c.isAlphanum = true ∨ c = '_'

instance : DecidablePred IsWord := fun name =>
  -- the characters of the name are gone through, and not all characters there are
  @instDecidableAnd (name ≠ "") _ inferInstance
    (List.decidableBAll (fun c => c.isAlphanum = true ∨ c = '_') name.toList)

/-- What closes a comment. -/
def closing : List Char := "*/".toList

/-- What is asked of the texts in a type for it to be read back: names that are words, and
remarks that do not close the comment in which they stand. -/
def typeRules : TextRules where
  name _ := True
  key := IsWord
  remark r := ¬ closing <:+: r.toList
  path _ := True

/-- A word holds no other signs. -/
theorem IsWord.not_mem {name : String} (h : IsWord name) {sign : Char}
    (hsign : sign.isAlphanum = false ∧ sign ≠ '_') : sign ∉ name.toList := by
  intro hmem
  rcases h.2 sign hmem with hc | hc
  · rw [hsign.1] at hc
    contradiction
  · exact hsign.2 hc

/-- A word does not begin like what begins with another sign. -/
theorem IsWord.isPrefixOf_eq_false {name : String} (h : IsWord name) {sign : Char}
    {mark : List Char} (hsign : sign.isAlphanum = false ∧ sign ≠ '_') (rest : List Char) :
    (sign :: mark).isPrefixOf (name.toList ++ rest) = false := by
  have hne : name.toList ≠ [] := fun hnil => h.1 (String.toList_eq_nil_iff.1 hnil)
  obtain ⟨c, cs, hname⟩ := List.exists_cons_of_ne_nil hne
  have hother : (sign == c) = false := by
    rw [beq_eq_false_iff_ne]
    rintro rfl
    exact h.not_mem hsign (hname ▸ List.mem_cons_self)
  rw [hname, List.cons_append, List.isPrefixOf, hother, Bool.false_and]

/-- A remark with a blank behind it ends where its comment is closed. -/
theorem closing_not_within {remark : List Char} (h : ¬ closing <:+: remark) :
    ¬ closing <:+: (remark ++ [' '] ++ closing).dropLast := by
  have hclosing : closing = ['*', '/'] := rfl
  have hlast : (remark ++ [' '] ++ closing).dropLast = remark ++ [' '] ++ ['*'] := by
    rw [hclosing, ← List.singleton_append (x := '*'), ← List.append_assoc, List.dropLast_concat]
  -- it could only end at the star, at the blank, or within the remark
  rw [hlast, List.infix_concat_iff, List.infix_concat_iff, hclosing]
  rintro (hstar | hblank | hremark)
  · simpa using hstar.reverse
  · simpa using hblank.reverse
  · exact h hremark

namespace TypeExpr

/-! ## what is written -/

mutual

/-- A type whose comments say something. -/
def withoutEmptyComments : TypeExpr → TypeExpr
  | unknown => unknown
  | number => number
  | string => string
  | boolean => boolean
  | array item => array item.withoutEmptyComments
  | object fields => object (fieldsWithoutEmptyComments fields)

/-- Properties whose comments say something. -/
def fieldsWithoutEmptyComments :
    List (Option String × String × TypeExpr) → List (Option String × String × TypeExpr)
  | [] => []
  | (comment, name, type) :: fs =>
    (comment.filter (· ≠ ""), name, type.withoutEmptyComments) :: fieldsWithoutEmptyComments fs

end

/-- The lines of a property, each with its line break. -/
def fieldText (f : Option String × String × TypeExpr) : List Char :=
  (commentText f.1).toList ++ (f.2.1.toList ++ [':']) ++ ([' '] ++ (f.2.2.text.toList ++ ['\n']))

/-- A property whose comment says something. -/
def fieldWithoutEmptyComments (f : Option String × String × TypeExpr) :
    Option String × String × TypeExpr :=
  (f.1.filter (· ≠ ""), f.2.1, f.2.2.withoutEmptyComments)

theorem fieldsWithoutEmptyComments_eq (fs : List (Option String × String × TypeExpr)) :
    fieldsWithoutEmptyComments fs = fs.map fieldWithoutEmptyComments := by
  induction fs with
  | nil => rw [fieldsWithoutEmptyComments, List.map_nil]
  | cons f fs ih =>
    obtain ⟨comment, name, type⟩ := f
    rw [fieldsWithoutEmptyComments, List.map_cons, ih]
    rfl

/-- The line breaks in front of properties, taken as those behind them. -/
theorem fieldsText_concat (fs : List (Option String × String × TypeExpr)) :
    (fieldsText fs).toList ++ ['\n'] = '\n' :: fs.flatMap fieldText := by
  induction fs with
  | nil => rw [fieldsText_nil]; rfl
  | cons f fs ih =>
    obtain ⟨comment, name, type⟩ := f
    rw [fieldsText_cons, String.toList_append, List.append_assoc, ih]
    simp [fieldText]

/-- An object with properties, line by line. -/
theorem toList_text_object {fs : List (Option String × String × TypeExpr)} (h : fs ≠ []) :
    (object fs).text.toList = "\x7b\n".toList ++ (fs.flatMap fieldText ++ ['}']) := by
  obtain ⟨f, fs, rfl⟩ := List.exists_cons_of_ne_nil h
  have hbody := fieldsText_concat (f :: fs)
  rw [text]
  simp only [String.toList_append]
  show '{' :: ((fieldsText (f :: fs)).toList ++ ('\n' :: ['}'])) = '{' :: ('\n' :: (_ ++ ['}']))
  rw [← List.singleton_append (x := '\n'), ← List.append_assoc, hbody, List.cons_append]

/-- What is written inside an array is shorter. -/
theorem length_text_item (item : TypeExpr) :
    item.text.toList.length < (array item).text.toList.length := by
  have hlead : "Array<".toList.length = 6 := rfl
  simp only [text_array, String.toList_append, List.length_append]
  omega

/-- What is written inside an object is shorter. -/
theorem length_text_field {fs : List (Option String × String × TypeExpr)}
    {f : Option String × String × TypeExpr} (h : f ∈ fs) :
    f.2.2.text.toList.length < (object fs).text.toList.length := by
  obtain ⟨before, after, rfl⟩ := List.append_of_mem h
  rw [toList_text_object (by simp)]
  simp only [List.flatMap_append, List.flatMap_cons, fieldText, List.length_append,
    List.length_singleton]
  omega

/-! ## readers -/

/-- Take the name of a property without a comment, up to the colon. -/
def plainHead : Reader (Option String × String) := do
  let name ← before ':'
  pure (none, String.ofList name)

/-- Take the comment of a property, and its name, up to the colon. -/
def commentedHead : Reader (Option String × String) := do
  expect "/** ".toList
  -- a blank stands between a remark and what closes it
  let remark ← upTo closing
  expect ['\n']
  let name ← before ':'
  pure (some (String.ofList remark.dropLast), String.ofList name)

/-- Take the comment of a property, if there is one, and its name. -/
def fieldHead : Reader (Option String × String) :=
  choose "/** ".toList commentedHead plainHead

/-- Take a property with its type. -/
def fieldReader (type : Reader TypeExpr) : Reader (Option String × String × TypeExpr) := do
  let head ← fieldHead
  expect [' ']
  let t ← type
  expect ['\n']
  pure (head.1, head.2, t)

/-- Take a word that stands for a type. -/
def word (w : List Char) (t : TypeExpr) : Reader TypeExpr := do
  expect w
  pure t

/-- The kinds of type by what they begin with, with a reader for the types inside them. -/
def kinds (type : Reader TypeExpr) : List (List Char × Reader TypeExpr) :=
  [("unknown".toList, word "unknown".toList unknown),
    ("number".toList, word "number".toList number),
    ("string".toList, word "string".toList string),
    ("boolean".toList, word "boolean".toList boolean),
    ("\x7b\x7d".toList, word "\x7b\x7d".toList (object [])),
    ("Array<".toList, do
      expect "Array<".toList
      let item ← type
      expect ['>']
      pure (array item)),
    ("\x7b\n".toList, do
      expect "\x7b\n".toList
      let fields ← entriesBefore ['}'] (fieldReader type)
      pure (object fields))]

/-- Take a type that is nested to a given depth at most. -/
def reader : Nat → Reader TypeExpr
  | 0 => fun _ => none
  | depth + 1 => oneOf (kinds (reader depth))

/-- No kind of type begins like another one. -/
theorem kinds_distinct (type : Reader TypeExpr) :
    ((kinds type).map Prod.fst).Pairwise fun m m' => ¬ m <+: m' ∧ ¬ m' <+: m := by
  have hmarks : (kinds type).map Prod.fst = ["unknown", "number", "string", "boolean",
      "\x7b\x7d", "Array<", "\x7b\n"].map String.toList := rfl
  rw [hmarks]
  decide

variable {type : Reader TypeExpr} {t t' : TypeExpr} {w : List Char} {depth : Nat}
  {fs fs' : List (Option String × String × TypeExpr)}

theorem reads_word (w : List Char) (t : TypeExpr) : (word w t).Reads w t :=
  (reads_expect w).bind_pure fun _ => t

theorem reads_plainHead {name : String} (hname : IsWord name) :
    plainHead.Reads (name.toList ++ [':']) (none, name) := by
  have hread : plainHead.Reads (name.toList ++ [':']) (none, String.ofList name.toList) :=
    (reads_before (hname.not_mem (by decide))).bind_pure _
  rwa [String.ofList_toList] at hread

theorem reads_commentedHead {remark name : String} (hname : IsWord name) (nonempty : remark ≠ "")
    (hremark : ¬ closing <:+: remark.toList) :
    commentedHead.Reads ((commentText (some remark)).toList ++ (name.toList ++ [':']))
      (some remark, name) := by
  have htext : (commentText (some remark)).toList ++ (name.toList ++ [':']) =
      "/** ".toList ++ (remark.toList ++ [' '] ++ closing ++ (['\n'] ++
        (name.toList ++ [':']))) := by
    rw [commentText_some nonempty]
    simp [closing]
  have hclosed : (upTo closing).Reads (remark.toList ++ [' '] ++ closing)
      (remark.toList ++ [' ']) := reads_upTo (closing_not_within hremark)
  have hbefore : (before ':').Reads (name.toList ++ [':']) name.toList :=
    reads_before (hname.not_mem (by decide))
  have hread : commentedHead.Reads ("/** ".toList ++ (remark.toList ++ [' '] ++ closing ++
      (['\n'] ++ (name.toList ++ [':']))))
      (some (String.ofList (remark.toList ++ [' ']).dropLast), String.ofList name.toList) :=
    (reads_expect _).bind (hclosed.bind ((reads_expect _).bind (hbefore.bind_pure _)))
  rwa [List.dropLast_concat, String.ofList_toList, String.ofList_toList, ← htext] at hread

/-- A comment that says something is told from a name by how it begins; an empty one is not
written. -/
theorem reads_fieldHead {comment : Option String} {name : String} (hname : IsWord name)
    (hcomment : ∀ remark, comment = some remark → ¬ closing <:+: remark.toList) :
    fieldHead.Reads ((commentText comment).toList ++ (name.toList ++ [':']))
      (comment.filter (· ≠ ""), name) := by
  have hplain : fieldHead.Reads (name.toList ++ [':']) (none, name) := by
    refine reads_choose_right (reads_plainHead hname) fun rest => ?_
    rw [List.append_assoc]
    exact hname.isPrefixOf_eq_false (by decide) _
  cases comment with
  | none => exact hplain
  | some remark =>
    by_cases hempty : remark = ""
    · subst hempty
      rw [commentText_empty]
      exact hplain
    · have hfilter : (some remark).filter (· ≠ "") = some remark := by
        simp [Option.filter, hempty]
      have hmark : "/** ".toList <+: (commentText (some remark)).toList ++
          (name.toList ++ [':']) := by
        rw [commentText_some hempty]
        simp
      rw [hfilter]
      exact reads_choose_left (reads_commentedHead hname hempty (hcomment remark rfl)) hmark

/-- The lines of a property are read back if its type is. -/
theorem reads_field {f : Option String × String × TypeExpr} (hname : IsWord f.2.1)
    (hcomment : ∀ remark, f.1 = some remark → ¬ closing <:+: remark.toList)
    (htype : type.Reads f.2.2.text.toList f.2.2.withoutEmptyComments) :
    (fieldReader type).Reads (fieldText f) (fieldWithoutEmptyComments f) :=
  (reads_fieldHead hname hcomment).bind ((reads_expect _).bind (htype.bind
    ((reads_expect _).bind_pure _)))

/-- A property begins with its comment or with its name, and not like the end of an object. -/
theorem isPrefixOf_fieldText {f : Option String × String × TypeExpr} (hname : IsWord f.2.1)
    (rest : List Char) : ['}'].isPrefixOf (fieldText f ++ rest) = false := by
  have hplain : ∀ tail : List Char, ['}'].isPrefixOf (f.2.1.toList ++ tail) = false :=
    hname.isPrefixOf_eq_false (by decide)
  rw [fieldText]
  cases hcomment : f.1 with
  | none =>
    simp only [commentText_none, String.toList_empty, List.nil_append, List.append_assoc]
    exact hplain _
  | some remark =>
    by_cases hempty : remark = ""
    · subst hempty
      simp only [commentText_empty, String.toList_empty, List.nil_append, List.append_assoc]
      exact hplain _
    · rw [commentText_some hempty]
      simp only [String.toList_append, List.append_assoc]
      exact isPrefixOf_append_eq_false (by decide) (by decide) _

/-! ## types -/

theorem reads_kind {mark : List Char} {r : Reader TypeExpr}
    (listed : (mark, r) ∈ kinds (reader depth)) (h : r.Reads (mark ++ w) t) :
    (reader (depth + 1)).Reads (mark ++ w) t :=
  reads_oneOf (kinds_distinct _) listed h

theorem reads_primitive {mark : List Char} (listed : (mark, word mark t) ∈ kinds (reader depth)) :
    (reader (depth + 1)).Reads mark t := by
  have hread := reads_kind (w := []) listed ((reads_word mark t).of_eq (List.append_nil _).symm)
  rwa [List.append_nil] at hread

theorem reads_array {item : TypeExpr}
    (h : (reader depth).Reads item.text.toList item.withoutEmptyComments) :
    (reader (depth + 1)).Reads (array item).text.toList (array item).withoutEmptyComments := by
  have htext : (array item).text.toList = "Array<".toList ++ (item.text.toList ++ ['>']) := by
    rw [text_array, String.toList_append, String.toList_append, List.append_assoc]
    rfl
  have hread : (do
      expect "Array<".toList
      let item ← reader depth
      expect ['>']
      pure (array item) : Reader TypeExpr).Reads
      ("Array<".toList ++ (item.text.toList ++ ['>'])) (array item.withoutEmptyComments) :=
    (reads_expect _).bind (h.bind ((reads_expect _).bind_pure _))
  rw [htext, withoutEmptyComments]
  exact reads_kind (by simp [kinds]) hread

theorem reads_object {fs : List (Option String × String × TypeExpr)}
    (h : ∀ f ∈ fs, IsWord f.2.1 ∧
      (fieldReader (reader depth)).Reads (fieldText f) (fieldWithoutEmptyComments f)) :
    (reader (depth + 1)).Reads (object fs).text.toList (object fs).withoutEmptyComments := by
  rw [withoutEmptyComments, fieldsWithoutEmptyComments_eq]
  by_cases hempty : fs = []
  · subst hempty
    rw [text]
    exact reads_primitive (by simp [kinds])
  · have hread : (do
        expect "\x7b\n".toList
        let fields ← entriesBefore ['}'] (fieldReader (reader depth))
        pure (object fields) : Reader TypeExpr).Reads
        ("\x7b\n".toList ++ (fs.flatMap fieldText ++ ['}']))
        (object (fs.map fieldWithoutEmptyComments)) :=
      (reads_expect _).bind ((reads_entriesBefore (fun f hf => isPrefixOf_fieldText (h f hf).1)
        fun f hf => (h f hf).2).bind_pure _)
    rw [toList_text_object hempty]
    exact reads_kind (by simp [kinds]) hread

mutual

/-- A type whose texts keep the rules is read back, with room for as many levels as it has
characters. -/
theorem Alike.reads {t t' : TypeExpr} :
    ∀ {depth : Nat}, t.Alike typeRules t' → t.text.toList.length < depth →
      (reader depth).Reads t.text.toList t.withoutEmptyComments
  | 0, _, hroom => absurd hroom (Nat.not_lt_zero _)
  | _ + 1, .unknown, _ => reads_primitive (by simp [kinds, withoutEmptyComments, text])
  | _ + 1, .number, _ => reads_primitive (by simp [kinds, withoutEmptyComments, text])
  | _ + 1, .string, _ => reads_primitive (by simp [kinds, withoutEmptyComments, text])
  | _ + 1, .boolean, _ => reads_primitive (by simp [kinds, withoutEmptyComments, text])
  | _ + 1, .array item, hroom =>
    reads_array (item.reads (Nat.lt_of_lt_of_le (length_text_item _) (Nat.le_of_lt_succ hroom)))
  | _ + 1, .object fields, hroom => reads_object fun f hf => fields.reads f hf
    (Nat.lt_of_lt_of_le (length_text_field hf) (Nat.le_of_lt_succ hroom))

/-- The properties of a type are read back one by one. -/
theorem FieldsAlike.reads {fs fs' : List (Option String × String × TypeExpr)} {depth : Nat} :
    FieldsAlike typeRules fs fs' → ∀ f ∈ fs, f.2.2.text.toList.length < depth →
      IsWord f.2.1 ∧
        (fieldReader (reader depth)).Reads (fieldText f) (fieldWithoutEmptyComments f)
  | .nil, _, hf, _ => nomatch hf
  | .cons comment key type rest, f, hf, hroom => by
    rcases List.mem_cons.1 hf with rfl | hf
    · exact ⟨key, reads_field key (fun _ hsome => comment.left hsome) (type.reads hroom)⟩
    · exact rest.reads f hf hroom

end

/-- The type that a text was written from. -/
def read? (text : String) : Option TypeExpr :=
  match (reader (text.toList.length + 1)).run text.toList with
  | some (t, []) => some t
  | _ => none

/-- A type whose texts keep the rules is read back, up to empty comments. -/
theorem Alike.read?_text (h : t.Alike typeRules t') :
    read? t.text = some t.withoutEmptyComments := by
  have hread := h.reads (Nat.lt_succ_self _) []
  rw [List.append_nil] at hread
  rw [read?, hread]

end TypeExpr

/-! ## types of schemas -/

namespace Schema

variable {rules : TextRules} {defs : Table Schema} {inline : Bool} {opened : List String}
  {s t : Schema} {a : Annotated}

/-- The texts that a schema itself adds to a type keep the rules: the names of its properties,
and its remark. -/
structure Shows (rules : TextRules) (s : Schema) : Prop where
  names : s.kind = .object → ∀ p ∈ s.fields, rules.key p.1
  remark : ∀ remark, s.comment = some remark → rules.remark remark

/-- The texts of all schemas that are come upon and expressed by their kind keep the rules. -/
def ShowsThroughout (rules : TextRules) (defs : Table Schema) (inline : Bool) (s : Schema) :
    Prop :=
  ∀ r, ReflTransGen (Leads defs inline) s r → r.ByKind defs inline → r.Shows rules

theorem ShowsThroughout.of_leads (h : s.ShowsThroughout rules defs inline)
    (hleads : Leads defs inline s t) : t.ShowsThroughout rules defs inline :=
  fun r hpath => h r (.head hleads hpath)

/-- With its own texts, a schema agrees with itself if its parts are related to themselves. -/
theorem Shows.shapeAlike {related : Schema → Schema → Prop} (h : s.Shows rules)
    (parts : ∀ t, s.Part t → related t t) : ShapeAlike rules related s s := by
  refine ⟨rfl, TextRules.remarks_self h.remark, fun kind => ?_, fun kind => ?_⟩
  · exact List.forall₂_same.2 fun p listed =>
      ⟨rfl, h.names kind p listed, fun other => parts p.2 (.property kind listed other)⟩
  · cases items : s.items with
    | none => exact .none
    | some t => exact .some (parts t (.items kind items))

/-- The texts in a type are those of the schemas that are come upon. -/
theorem express_keeps (defs : Table Schema) (inline : Bool) (opened : List String) (s : Schema)
    (legible : s.ShowsThroughout rules defs inline) :
    Logged.Alike (Annotated.Alike rules) (s.express defs inline opened)
      (s.express defs inline opened) := by
  induction opened, s using express_induction defs with
  | plain opened s ref ih =>
    rw [express_of_ref_none ref]
    exact expressShape_alike ((legible s .refl (.inl ref)).shapeAlike fun t part =>
      ih t part (legible.of_leads (.part (.inl ref) part)))
  | missing opened s pointer ref missing =>
    rw [express_of_missing ref missing]
    exact .pure ⟨.unknown, .none⟩
  | found opened s pointer target ref found ihParts ih =>
    have henters : s.Enters defs (referenceName pointer) target := .intro ref found
    rw [express_of_found ref found]
    by_cases hinline : inline = true
    · rw [if_pos hinline]
      by_cases hopen : referenceName pointer ∈ opened
      · rw [if_pos hopen]
        exact .fail _
      · rw [if_neg hopen]
        exact ih hopen (legible.of_leads (.target hinline henters))
    · have byKind : s.ByKind defs inline :=
        .inr ⟨Bool.eq_false_iff.2 hinline, _, target, henters⟩
      rw [if_neg hinline]
      exact expressShape_alike ((legible s .refl byKind).shapeAlike fun t part =>
        ihParts t part (legible.of_leads (.part byKind part)))

/-- A type whose texts keep the rules is read back. -/
theorem read?_text_of_express (legible : s.ShowsThroughout typeRules defs inline)
    (expressed : (s.express defs inline opened).outcome = .ok a) :
    TypeExpr.read? a.type.text = some a.type.withoutEmptyComments := by
  cases express_keeps defs inline opened s legible with
  | ok left _ related =>
    rw [expressed, Except.ok.injEq] at left
    subst left
    exact related.type.read?_text
  | error left _ =>
    rw [expressed] at left
    contradiction

/-- **The text of a type tells the type.**  If the properties that are come upon have words
for names, and no remark closes the comment in which it stands, the type of a schema can be
read off its text, up to empty comments, which are not written.  So two such types that are
written alike, of any schemas in any documents, with references followed or not, are the
same. -/
theorem text_faithful {document document' : Document} {inline inline' : Bool} {s s' : Schema}
    {a a' : Annotated}
    (legible : s.ShowsThroughout typeRules document.definitions inline)
    (legible' : s'.ShowsThroughout typeRules document'.definitions inline')
    (expressed : (s.express document.definitions inline []).outcome = .ok a)
    (expressed' : (s'.express document'.definitions inline' []).outcome = .ok a') :
    TypeExpr.read? a.type.text = some a.type.withoutEmptyComments ∧
      (a.type.text = a'.type.text →
        a.type.withoutEmptyComments = a'.type.withoutEmptyComments) := by
  have hread := read?_text_of_express legible expressed
  have hread' := read?_text_of_express legible' expressed'
  refine ⟨hread, fun htext => ?_⟩
  rw [htext, hread'] at hread
  exact (Option.some.inj hread).symm

/-- The unit of a coin, with an empty remark. -/
def denom : Schema where
  type := some "string"
  description := some ""

/-- A coin has a unit. -/
def money : Schema where
  title := some "\x7ba\ncoin\x7d"
  properties := some [("denom_1", denom)]

/-- A list of coins. -/
def coinsOf (coin : Schema) : Schema where
  type := some "array"
  description := some "all"
  items := some coin

/-- A purse holds a first coin and all coins. -/
def purse (coin : Schema) : Schema where
  properties := some [(typeTag, { ref := some "Any" }), ("first", coin), ("coins", coinsOf coin)]

/-- A document in which coins are defined. -/
def purses : Document where
  definitions := .singleton "Coin" money

/-- A reference to the definition of coins. -/
def moneyReference : Schema where
  ref := some "Coin"

/-- The type of a purse. -/
def purseType : TypeExpr :=
  let coin : TypeExpr := .object [(some "", "denom_1", .string)]
  .object [(none, typeTag, .string), (money.title, "first", coin),
    (some "all", "coins", .array coin)]

/-- All schemas that are come upon in a purse. -/
def purseSchemas (coin : Schema) : List Schema := [purse coin, coin, coinsOf coin, money, denom]

theorem shows_purseSchemas {coin r : Schema} (hcoin : coin = moneyReference ∨ coin = money)
    (h : r ∈ purseSchemas coin) : r.Shows typeRules := by
  have hnames : ∀ name ∈ [typeTag, "first", "coins", "denom_1"], IsWord name := by decide
  have hremarks : ∀ remark ∈ ["\x7ba\ncoin\x7d", "all", ""], ¬ closing <:+: remark.toList := by
    decide +kernel
  have hall : ∀ coin ∈ [moneyReference, money], ∀ r ∈ purseSchemas coin,
      (∀ p ∈ r.fields, p.1 ∈ [typeTag, "first", "coins", "denom_1"]) ∧
      ∀ remark ∈ r.comment, remark ∈ ["\x7ba\ncoin\x7d", "all", ""] := by
    decide
  obtain ⟨hfields, hcomment⟩ := hall coin (by simpa using hcoin) r h
  exact ⟨fun _ p hp => hnames _ (hfields p hp), fun remark hr => hremarks _ (hcomment remark hr)⟩

/-- The type of a purse is the same whether its coins are defined or written out. -/
theorem text_faithful_purse :
    ((purse moneyReference).express purses.definitions true []).outcome = .ok ⟨purseType, none⟩ ∧
      ((purse money).express (∅ : Table Schema) true []).outcome = .ok ⟨purseType, none⟩ ∧
      TypeExpr.read? purseType.text = some purseType.withoutEmptyComments := by
  have legible : (purse moneyReference).ShowsThroughout typeRules purses.definitions true :=
    fun r hpath _ => shows_purseSchemas (.inl rfl)
      (mem_of_closed (by decide +kernel) List.mem_cons_self hpath)
  have legible' : (purse money).ShowsThroughout typeRules (default : Document).definitions true :=
    fun r hpath _ => shows_purseSchemas (.inr rfl)
      (mem_of_closed (by decide +kernel) List.mem_cons_self hpath)
  have expressed : ((purse moneyReference).express purses.definitions true []).outcome =
      .ok ⟨purseType, none⟩ := by
    -- a purse, its coins, the reference to one, the coin, and its unit
    rw [← answer_mk, answer_eq_level, answer_eq_level, answer_eq_level, answer_eq_level,
      answer_eq_level]
    rfl
  have expressed' : ((purse money).express (default : Document).definitions true []).outcome =
      .ok ⟨purseType, none⟩ := by
    rw [← answer_mk, answer_eq_level, answer_eq_level, answer_eq_level, answer_eq_level]
    rfl
  exact ⟨expressed, expressed', (text_faithful legible legible' expressed expressed').1⟩

end Schema

end ChainApi
