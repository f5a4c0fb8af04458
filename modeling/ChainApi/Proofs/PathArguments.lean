import ChainApi.Client.Route
import ChainApi.Proofs.FormEncoding
import ChainApi.Proofs.Target

/-!
# ChainApi.Proofs.PathArguments

What the arguments in the path of a request ask a server for.  An argument is written into
the path as it is, so that it stays one segment of the path only if it holds no character
with a meaning in addresses; the values of a query are always encoded.

* `Route.segments`, `Route.toList_path` — the path of a route, segment by segment;
* `Route.IsSpelled` — arguments that can be written into a path;
* `Route.resource` — what a request is meant to ask for;
* `Route.call_eq`, `Route.request_of_pathText?` — what comes of the call of a route;
* `Route.call_target_iff` — when the address of a request asks for it.
-/

namespace ChainApi

/-! ## segments of a path -/

/-- A character of a path, or an argument that is written there. -/
inductive PathSymbol where
  | char (c : Char)
  | argument (name : String)
  deriving DecidableEq

/-- The characters of a piece of a path without arguments. -/
def chars? : List PathSymbol → Option (List Char)
  | [] => some []
  | .char c :: piece => (chars? piece).map (c :: ·)
  | .argument _ :: _ => none

theorem eq_map_char {piece : List PathSymbol} {cs : List Char} (h : chars? piece = some cs) :
    piece = cs.map .char := by
  fun_induction chars? piece generalizing cs with
  | case1 =>
    cases h
    rfl
  | case2 c piece ih =>
    obtain ⟨cs, hcs, rfl⟩ := Option.map_eq_some_iff.1 h
    rw [ih hcs, List.map_cons]
  | case3 => cases h

/-- The characters and the arguments of a part of a path. -/
def Segment.symbols : Segment → List PathSymbol
  | .text s => s.toList.map .char
  | .argument name => [.argument name]

/-- Is this a single argument, or a text that makes up one segment? -/
def isPlainSegment : List PathSymbol → Bool
  | [.argument _] => true
  | piece => (chars? piece).any fun cs => decide (Url.IsSegment cs)

theorem isPlainSegment_cases {piece : List PathSymbol} (h : isPlainSegment piece = true) :
    (∃ name, piece = [.argument name]) ∨ ∃ cs, piece = cs.map .char ∧ Url.IsSegment cs := by
  unfold isPlainSegment at h
  split at h
  · next name => exact .inl ⟨name, rfl⟩
  · obtain ⟨cs, hcs, hsegment⟩ := (Option.any_eq_true ..).1 h
    exact .inr ⟨cs, eq_map_char hcs, of_decide_eq_true hsegment⟩

/-- A text is made of what stands behind the occurrences of a character, if it begins with
that one. -/
theorem eq_flatMap_of_splitOn {x : PathSymbol} {xs : List PathSymbol}
    {ys : List (List PathSymbol)} (h : xs.splitOn x = [] :: ys) : xs = ys.flatMap (x :: ·) := by
  have hjoin : ∀ (y : List PathSymbol) (ys : List (List PathSymbol)),
      [x].intercalate (y :: ys) = y ++ ys.flatMap (x :: ·) := by
    intro y ys
    induction ys generalizing y with
    | nil => simp
    | cons z ys ih => simp [List.intercalate_cons_cons, ih]
  have hxs : [x].intercalate (xs.splitOn x) = xs := List.intercalate_splitOn x
  rw [← hxs, h, hjoin, List.nil_append]

namespace Route

/-- The characters and the arguments of the path of a route. -/
def symbols (r : Route) : List PathSymbol := r.path.flatMap Segment.symbols

/-- The path of a route behind each of its slashes. -/
def segments (r : Route) : List (List PathSymbol) := (r.symbols.splitOn (.char '/')).tail

/-- Has the path of a route only arguments and texts as its segments? -/
def isSegmented (r : Route) : Bool :=
  match r.symbols.splitOn (.char '/') with
  | [] :: segments => segments.all isPlainSegment
  | _ => false

theorem isSegmented_of_rest :
    ∀ r ∈ all, r.server = .rest → r.name ≠ "rest_get_request" → r.isSegmented = true := by
  decide +kernel

section Path

variable {r : Route} {arguments : List (String × Value)} {name : String}

theorem symbols_eq (h : r.isSegmented = true) :
    r.symbols = r.segments.flatMap (.char '/' :: ·) ∧
      ∀ piece ∈ r.segments, isPlainSegment piece := by
  unfold isSegmented at h
  split at h
  · next pieces hsplit =>
    have hsegments : r.segments = pieces := by rw [segments, hsplit, List.tail_cons]
    rw [hsegments]
    exact ⟨eq_flatMap_of_splitOn hsplit, List.all_eq_true.1 h⟩
  · cases h

/-- What a character or an argument of a path is written as. -/
def symbolText (arguments : List (String × Value)) : PathSymbol → List Char
  | .char c => [c]
  | .argument name => (valueOf arguments name).text.toList

theorem flatMap_symbols {parts : List Segment} {texts : List String}
    (h : parts.mapM (segmentText? arguments) = some texts) :
    (parts.flatMap Segment.symbols).flatMap (symbolText arguments) =
      texts.flatMap String.toList := by
  have hpart {part : Segment} {text : String} (h : segmentText? arguments part = some text) :
      part.symbols.flatMap (symbolText arguments) = text.toList := by
    cases part with
    | text s =>
      obtain rfl := Option.some.inj h
      rw [Segment.symbols, List.flatMap_map]
      exact List.flatMap_singleton' _
    | argument name =>
      have hvalue : (valueOf arguments name).text = text := Value.text_of_text? h
      rw [Segment.symbols, List.flatMap_singleton, symbolText, hvalue]
  rw [mapM_eq_some_iff] at h
  induction parts generalizing texts with
  | nil =>
    rw [List.map_eq_nil_iff.1 h.symm]
    rfl
  | cons part parts ih =>
    obtain ⟨text, texts, rfl, htext, htexts⟩ := List.map_eq_cons_iff.1 h.symm
    rw [List.flatMap_cons, List.flatMap_append, hpart htext.symm, ih htexts.symm,
      List.flatMap_cons]

/-- A path, segment by segment. -/
theorem toList_path {path : String} (h : r.isSegmented = true)
    (hpath : r.pathText? arguments = some path) :
    path.toList = Url.pathOf (r.segments.map (·.flatMap (symbolText arguments))) := by
  obtain ⟨texts, htexts, rfl⟩ := Option.map_eq_some_iff.1 hpath
  calc
    (String.join texts).toList
      = r.symbols.flatMap (symbolText arguments) := by
        rw [String.toList_join, symbols, flatMap_symbols htexts]
    _ = Url.pathOf (r.segments.map (·.flatMap (symbolText arguments))) := by
        rw [(symbols_eq h).1, List.flatMap_assoc, Url.pathOf, List.flatMap_map]
        rfl

/-- Can all arguments in the path of a route be written? -/
def IsSpelled (r : Route) (arguments : List (String × Value)) : Prop :=
  ∀ name, .argument name ∈ r.path → ∀ i ∈ (valueOf arguments name).integers, i.natAbs < pow10 4300

theorem pathText?_ne_none_iff : r.pathText? arguments ≠ none ↔ r.IsSpelled arguments := by
  have hargument (name : String) : segmentText? arguments (.argument name) = none ↔
      ∃ i ∈ (valueOf arguments name).integers, pow10 4300 ≤ i.natAbs := by
    simp only [segmentText?, Value.text?_eq_none_iff, Value.isUnspellable_iff, Value.isLong_iff]
  have hnone : r.pathText? arguments = none ↔
      ∃ name, .argument name ∈ r.path ∧ segmentText? arguments (.argument name) = none := by
    rw [pathText?, Option.map_eq_none_iff, mapM_eq_none_iff]
    constructor
    · rintro ⟨_ | name, hs, hnone⟩
      · cases hnone
      · exact ⟨name, hs, hnone⟩
    · rintro ⟨name, hname, hnone⟩
      exact ⟨_, hname, hnone⟩
  simp only [ne_eq, hnone, hargument, IsSpelled, not_exists, not_and, Nat.not_le]

theorem mem_symbols : PathSymbol.argument name ∈ r.symbols ↔ .argument name ∈ r.path := by
  rw [symbols, List.mem_flatMap]
  constructor
  · rintro ⟨_ | other, hs, hname⟩
    · obtain ⟨c, -, hc⟩ := List.mem_map.1 hname
      cases hc
    · cases List.mem_singleton.1 hname
      exact hs
  · exact fun h => ⟨_, h, List.mem_singleton_self _⟩

theorem singleton_mem_segments (h : r.isSegmented = true) :
    [PathSymbol.argument name] ∈ r.segments ↔ .argument name ∈ r.path := by
  obtain ⟨hsymbols, hplain⟩ := symbols_eq h
  rw [← mem_symbols, hsymbols, List.mem_flatMap]
  constructor
  · exact fun hmem => ⟨_, hmem, List.mem_cons_of_mem _ (List.mem_singleton_self _)⟩
  · rintro ⟨piece, hpiece, hname⟩
    replace hname := (List.mem_cons.1 hname).resolve_left nofun
    obtain ⟨other, rfl⟩ | ⟨cs, rfl, -⟩ := isPlainSegment_cases (hplain piece hpiece)
    · cases List.mem_singleton.1 hname
      exact hpiece
    · obtain ⟨c, -, hc⟩ := List.mem_map.1 hname
      cases hc

/-- The segments of a path stand for their own characters exactly if its arguments do. -/
theorem forall_segments_iff (h : r.isSegmented = true) :
    (∀ piece ∈ r.segments, Url.IsSegment (piece.flatMap (symbolText arguments))) ↔
      ∀ name, .argument name ∈ r.path → Url.IsSegment (valueOf arguments name).text.toList := by
  have hargument : ∀ name, [PathSymbol.argument name].flatMap (symbolText arguments) =
      (valueOf arguments name).text.toList := fun name => List.flatMap_singleton ..
  constructor
  · intro hpieces name hname
    have hpiece := hpieces _ ((singleton_mem_segments h).2 hname)
    rwa [hargument] at hpiece
  · intro harguments piece hpiece
    obtain ⟨name, rfl⟩ | ⟨cs, rfl, hcs⟩ := isPlainSegment_cases ((symbols_eq h).2 piece hpiece)
    · rw [hargument]
      exact harguments name ((singleton_mem_segments h).1 hpiece)
    · have htext : (cs.map PathSymbol.char).flatMap (symbolText arguments) = cs := by
        rw [List.flatMap_map]
        exact List.flatMap_singleton' cs
      rwa [htext]

end Path

/-! ## requests -/

/-- What a request is meant to ask for: the path of its route, in which each argument is a
segment, and its query. -/
def resource (r : Route) (chain : Chain) (arguments : List (String × Value)) (query : String) :
    Url.Target :=
  { Url.target (r.server.address chain) with
    segments := (Url.target (r.server.address chain)).segments ++
      r.segments.map fun piece => Url.utf8 (piece.flatMap (symbolText arguments))
    query := (Url.cut '?' query.toList).2 }

section Requests

variable {chain : Chain} {r : Route} {positional : List Value}
  {named arguments arguments' : List (String × Value)} {params : List (Value × Value)}
  {path query query' : String} {failure : Query.Failure}

/-- Where all names are different, a route is found under its name. -/
theorem find?_of_nodup {routes : List Route} (h : (routes.map Route.name).Nodup)
    (hr : r ∈ routes) : routes.find? (fun s => s.name == r.name) = some r := by
  induction routes with
  | nil => cases hr
  | cons s routes ih =>
    rw [List.map_cons, List.nodup_cons] at h
    rcases List.mem_cons.1 hr with rfl | hr
    · exact List.find?_cons_of_pos (beq_self_eq_true _)
    · have hne : s.name ≠ r.name := fun heq => h.1 (heq ▸ List.mem_map_of_mem hr)
      rw [List.find?_cons_of_neg (by simpa using hne), ih h.2 hr]

/-- What comes of the call of a route is what comes of its arguments, once these fit. -/
theorem call_eq (listed : r ∈ all) (bound : r.bind positional named = .ok arguments) :
    call chain r.name positional named = (r.request chain arguments).map .request := by
  have hfound : find? r.name = some r := find?_of_nodup nodup_names listed
  rw [call, hfound]
  dsimp only
  rw [bound]
  exact bind_pure_comp Call.request (r.request chain arguments)

theorem request_of_pathText?_eq_none (hpath : r.pathText? arguments = none) :
    r.request chain arguments = .error (.unwritten .longInteger) := by
  rw [request, hpath]

theorem request_of_pathText? (hpath : r.pathText? arguments = some path)
    (queried : r.queryParams arguments = .ok params) :
    r.request chain arguments =
      ((Query.build params).map (.below chain r.server path)).mapError .unwritten := by
  rw [request, hpath, queried]
  rfl

theorem below_target_iff (base : Url.IsBase (r.server.address chain))
    (h : r.isSegmented = true) (hpath : r.pathText? arguments = some path)
    (hquery : Query.build params = .ok query) :
    Url.target (Request.below chain r.server path query).url = r.resource chain arguments query ↔
      ∀ name, .argument name ∈ r.path → Url.IsSegment (valueOf arguments name).text.toList := by
  have hfragment : '#' ∉ query.toList := Query.not_mem_of_build (by decide) (by decide) hquery
  have happend := Url.target_append_iff base (toList_path h hpath) (Query.head?_of_build hquery)
    hfragment
  rw [List.map_map, List.forall_mem_map, forall_segments_iff h] at happend
  exact happend

/-- Arguments can be told from what a request is meant to ask for. -/
theorem text_eq_of_resource_eq (h : r.isSegmented = true)
    (hresource : r.resource chain arguments' query' = r.resource chain arguments query) :
    ∀ name, .argument name ∈ r.path →
      (valueOf arguments' name).text = (valueOf arguments name).text := by
  intro name hname
  have hsegments := List.map_inj_left.1
    (List.append_cancel_left (congrArg Url.Target.segments hresource))
    _ ((singleton_mem_segments h).2 hname)
  rw [List.flatMap_singleton, List.flatMap_singleton] at hsegments
  exact String.toList_inj.1 (Url.utf8_injective hsegments)

/-- **Arguments in paths.**  Take a request to the REST server whose path is not an argument
itself.  It is made unless its path or its query cannot be written, and then asks for the
resource that it is meant to ask for if, and only if, all arguments in its path are segments
that stand for their own characters.  Different arguments are meant for different resources.

The segments `.` and `..` are ordinary ones here, as they are in the address itself; a client
that normalizes addresses drops them before it asks. -/
theorem call_target_iff (base : Url.IsBase chain.urls.rest) (listed : r ∈ all)
    (rest : r.server = .rest) (closed : r.name ≠ "rest_get_request")
    (bound : r.bind positional named = .ok arguments)
    (queried : r.queryParams arguments = .ok params) :
    (¬ r.IsSpelled arguments →
      call chain r.name positional named = .error (.unwritten .longInteger)) ∧
    (r.IsSpelled arguments →
      (∀ failure, Query.build params = .error failure →
        call chain r.name positional named = .error (.unwritten failure)) ∧
      ∀ query, Query.build params = .ok query →
        ∃ request, call chain r.name positional named = .ok (.request request) ∧
          (Url.target request.url = r.resource chain arguments query ↔
            ∀ name, .argument name ∈ r.path →
              Url.IsSegment (valueOf arguments name).text.toList) ∧
          ∀ arguments' query',
            r.resource chain arguments' query' = r.resource chain arguments query →
            ∀ name, .argument name ∈ r.path →
              (valueOf arguments' name).text = (valueOf arguments name).text) := by
  have h := isSegmented_of_rest r listed rest closed
  have hbase : Url.IsBase (r.server.address chain) := by
    rw [rest]
    exact base
  rw [← pathText?_ne_none_iff, call_eq listed bound, ne_eq, not_not]
  refine ⟨fun hnone => ?_, fun hne => ?_⟩
  · rw [request_of_pathText?_eq_none hnone]
    rfl
  · obtain ⟨path, hpath⟩ := Option.ne_none_iff_exists'.1 hne
    rw [request_of_pathText? hpath queried]
    refine ⟨fun failure hfailure => ?_, fun query hquery => ?_⟩
    · rw [hfailure]
      rfl
    · rw [hquery]
      exact ⟨_, rfl, below_target_iff hbase h hpath hquery,
        fun _ _ => text_eq_of_resource_eq h⟩

end Requests

/-- Paths may be put behind the address of every known REST server. -/
theorem isBase_of_known : ∀ chain ∈ Chain.known.values, Url.IsBase chain.urls.rest := by
  decide +kernel

/-- A known chain. -/
def kyve : Chain := (Chain.known.get? "kyve").get rfl

/-- The route of a balance. -/
def balance : Route := (find? "get_balance").get rfl

/-- The route of the supply of a denomination. -/
def supply : Route := (find? "get_supply").get rfl

theorem call_target_iff_balance :
    ∃ request,
      call kyve "get_balance" [.str "kyve1owner", .str "ibc/27394FB0"] [] =
        .ok (.request request) ∧
      Url.target request.url = balance.resource kyve
        [("address", .str "kyve1owner"), ("denom", .str "ibc/27394FB0")]
        "?denom=ibc%2F27394FB0" := by
  have hsegment : Url.IsSegment "kyve1owner".toList := by decide +kernel
  have hspelled : balance.IsSpelled
      [("address", .str "kyve1owner"), ("denom", .str "ibc/27394FB0")] :=
    pathText?_ne_none_iff.1 (by decide +kernel)
  have hquery : Query.build [(.str "denom", .str "ibc/27394FB0")] =
      .ok "?denom=ibc%2F27394FB0" := by decide +kernel
  obtain ⟨-, hcalls⟩ :=
    @call_target_iff kyve balance [.str "kyve1owner", .str "ibc/27394FB0"] [] _ _
      (isBase_of_known kyve (by decide)) (by decide) rfl (by decide) rfl rfl
  obtain ⟨request, hcall, htarget, -⟩ := (hcalls hspelled).2 _ hquery
  refine ⟨request, hcall, htarget.2 fun name hname => ?_⟩
  cases hname with
  | tail _ hname =>
    cases hname with
    | head => exact hsegment
    | tail _ hname => cases hname with | tail _ hname => cases hname

/-- The slash of a denomination ends a segment, and two calls with different arguments make
one request. -/
theorem call_supply_slash :
    (∃ request,
      call kyve "get_supply" [.str "ibc/27394FB0"] [] = .ok (.request request) ∧
      (Url.target request.url).segments =
        ["", "cosmos", "bank", "v1beta1", "supply", "ibc", "27394FB0"].map (Url.utf8 ·.toList) ∧
      (supply.resource kyve [("denom", .str "ibc/27394FB0")] "").segments =
        ["", "cosmos", "bank", "v1beta1", "supply", "ibc/27394FB0"].map (Url.utf8 ·.toList)) ∧
    call kyve "get_balances" [.str "kyve1owner?denom=ukyve"] [] =
      call kyve "get_balances" [.str "kyve1owner", .map [(.str "denom", .str "ukyve")]] [] := by
  refine ⟨⟨.below kyve .rest "/cosmos/bank/v1beta1/supply/ibc/27394FB0" "", ?_,
    by decide +kernel, by decide +kernel⟩, ?_⟩
  · decide +kernel
  · decide +kernel

end Route

end ChainApi
