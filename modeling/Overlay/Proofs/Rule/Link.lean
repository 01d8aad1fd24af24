import Overlay.Proofs.Attribute
import Overlay.Proofs.Checks.Description
import Overlay.Proofs.Code.Gathering
import Overlay.Proofs.Coverage
import Overlay.Proofs.Rule.Exchange

/-!
The request of a link. What was not asked for stands in it as an empty value: an empty
selection, an empty map or an empty identifier. These values can be taken for nothing else,
because none of the calls gives them: `select` and `meta` have at least one argument, the
quality of service has two entries, and an empty identifier is refused. So a request shows
which calls stand on either side of a transmission, in whatever order, and what is in them.
-/

namespace Overlay

open Text

/-! What is written in a call. -/

/-- Whether a call lists some names. -/
def IsSelection (names : List Text) (call : Text) : Prop :=
  names ≠ [] ∧ (∀ name ∈ names, name.isName = true) ∧ Method.select.IsWritten names call

theorem selection_eq_ok_iff {t : Text} {names : List Text} :
    selection t = .ok names ↔ IsSelection names t := by
  simp only [selection, Except.bind_eq_ok_iff, Method.convert, Method.convertFrom_eq_ok_iff,
    Method.forall₂_converts_names_iff]
  have hread (ts : List Text) := Argument.mapM_nth_names [] ts
  simp only [List.length_nil, List.nil_append, ← List.range_eq_range'] at hread
  constructor
  · rintro ⟨ts, hts, ⟨⟩, hcount, _, ⟨hnames, rfl⟩, h⟩
    rw [List.length_map, hread] at h
    cases h
    have hne := List.length_pos_iff.1 (Method.expectAtLeast_eq_ok_iff.1 hcount)
    exact ⟨hne, hnames, Method.isWritten_of_arguments hts hne⟩
  · rintro ⟨hne, hnames, hwritten⟩
    have hts := hwritten.arguments hne fun name hname => .of_isName (hnames name hname)
    refine ⟨names, hts, (), Method.expectAtLeast_eq_ok_iff.2 (List.length_pos_iff.2 hne), _,
      ⟨hnames, rfl⟩, ?_⟩
    rw [List.length_map]
    exact hread names

/-- Whether a call has an identifier as its only argument. -/
def IsIdentifier (id call : Text) : Prop :=
  id ≠ [] ∧ ∃ literal, (Literal.string id).IsWritten literal ∧ Method.id.IsWritten [literal] call

theorem identifier_eq_ok_iff {t id : Text} : identifier t = .ok id ↔ IsIdentifier id t := by
  have hformat : ∀ types ∈ [[ArgumentType.string]], .untyped ∉ types := by decide
  simp only [identifier, Except.bind_eq_ok_iff, IsIdentifier, Literal.isWritten_string_iff,
    Method.call_eq_ok_iff_isWritten (List.cons_ne_nil _ _) hformat]
  constructor
  · rintro ⟨args, ⟨ts, hwritten, hlen, hargs⟩, id', hid, h⟩
    obtain ⟨literal, rfl⟩ := List.length_eq_one_iff.1 hlen
    obtain ⟨_, _, ha, hnil, rfl⟩ := List.forall₂_cons_left_iff.1 hargs
    obtain ⟨s, hs, rfl⟩ := Method.converts_string_iff.1 ha
    cases hid
    split at h
    · cases h
    · next hne =>
      cases h
      exact ⟨by simpa using hne, literal, hs, hwritten⟩
  · rintro ⟨hne, literal, hliteral, hwritten⟩
    refine ⟨[.string id], ⟨[literal], hwritten, rfl, ?_⟩, id, rfl, by simp [hne]⟩
    exact .cons (Method.converts_string_iff.2 ⟨id, hliteral, rfl⟩) .nil

namespace Qos

/-- Whether a call has a bandwidth and a priority as its arguments. -/
def IsWritten (q : Qos) (call : Text) : Prop :=
  q.bandwidth.IsPositive ∧ ∃ bandwidth priority, q.bandwidth.IsNumeral bandwidth ∧
    (Literal.integer q.priority).IsWritten priority ∧
    Method.qos.IsWritten [bandwidth, priority] call

theorem ofText_eq_ok_iff {t : Text} {q : Qos} : ofText t = .ok q ↔ q.IsWritten t := by
  have hformat : ∀ types ∈ [ArgumentType.number, [.integer]], .untyped ∉ types := by decide
  simp only [ofText, Except.bind_eq_ok_iff, Except.pure_eq_ok_iff, checkPositive_eq_ok_iff,
    IsWritten, Literal.isNumeral_iff, Literal.isWritten_integer_iff,
    Method.call_eq_ok_iff_isWritten (List.cons_ne_nil _ _) hformat]
  constructor
  · rintro ⟨args, ⟨ts, hwritten, hlen, hargs⟩, bandwidth, hbandwidth, ⟨⟩, hpositive, priority,
      hpriority, rfl⟩
    obtain ⟨b, p, rfl⟩ := List.length_eq_two.1 hlen
    obtain ⟨a, _, ha, hrest, rfl⟩ := List.forall₂_cons_left_iff.1 hargs
    obtain ⟨_, _, hinteger, hnil, rfl⟩ := List.forall₂_cons_left_iff.1 hrest
    obtain ⟨n, hn, rfl⟩ := Method.converts_integer_iff.1 hinteger
    obtain ⟨_, ha0, hliteral⟩ := Argument.nth_eq_ok_iff.1 hbandwidth
    cases ha0
    cases hpriority
    exact ⟨hpositive, b, p, ⟨a, ha, hliteral⟩, hn, hwritten⟩
  · rintro ⟨hpositive, b, p, ⟨a, ha, hliteral⟩, hn, hwritten⟩
    refine ⟨[a, .integer q.priority], ⟨[b, p], hwritten, rfl, ?_⟩, q.bandwidth,
      Argument.nth_eq_ok_iff.2 ⟨a, rfl, hliteral⟩, (), hpositive, q.priority, rfl, rfl⟩
    exact .cons ha (.cons (Method.converts_integer_iff.2 ⟨_, hn, rfl⟩) .nil)

/-- The entries in the intermediate code. -/
def entries (q : Qos) : List (Text × Json) :=
  [("bandwidth".toList, q.bandwidth.toJson), ("priority".toList, .ofInt64 q.priority)]

theorem holds_toJson (q : Qos) : q.toJson.Holds q.entries := by
  refine Keyed.holds_iff.2 ⟨?_, rfl⟩
  show ["bandwidth".toList, "priority".toList].Nodup
  decide

end Qos

namespace Metadata

/-- Whether a call has attributes with literals as its arguments, with these entries. -/
def IsWritten (entries : List (Text × Literal)) (call : Text) : Prop :=
  entries ≠ [] ∧ ∃ args, List.Forall₂ (IsEntry IsValue) args entries ∧
    Method.metadata.IsWritten args call

theorem exists_isWritten_of_ofText {t : Text} {m : Metadata} (h : ofText t = .ok m) :
    ∃ entries, IsWritten entries t ∧ m.Holds entries := by
  obtain ⟨args, entries, hargs, hne, hall, hholds⟩ := ofText_eq_ok_iff.1 h
  exact ⟨entries, ⟨ne_nil_of_forall₂ hall hne, args, hall,
    Method.isWritten_of_arguments hargs hne⟩, hholds⟩

end Metadata

/-! What a request shows. -/

theorem Keyed.Holds.ne_empty {α : Type} {m : Keyed α} {entries : List (Text × α)}
    (h : m.Holds entries) (hne : entries ≠ []) : m ≠ Keyed.empty := by
  rintro rfl
  obtain ⟨e, rest, rfl⟩ := List.exists_cons_of_ne_nil hne
  have hmem := (Keyed.contains_iff_of_holds h).2 (List.mem_cons_self (a := e.1))
  cases hmem

/-- Whether a value shows what the calls of a method give: it is the absent value just if
there is no such call, and otherwise what the call gives. -/
structure Method.Shows {α : Type} (m : Method) (Gives : Text → α → Prop) (absent : α)
    (calls : List Text) (value : α) : Prop where
  absent_iff : value = absent ↔ ∀ call ∈ calls, m.isCalledBy call = false
  given : ∀ call ∈ calls, m.isCalledBy call = true → Gives call value

/-- A place shows its call if the value of a call is never the absent one. -/
theorem Chain.Holds.shows {α β : Type} {m : Method} {read : Text → Except Fault α}
    {calls : List Text} {place : Option α} (h : Holds m read calls place)
    {Gives : Text → β → Prop} {absent : β} {f : α → β}
    (hread : ∀ call a, read call = .ok a → Gives call (f a) ∧ f a ≠ absent) :
    m.Shows Gives absent calls ((place.map f).getD absent) := by
  cases place with
  | none =>
      have hnone : ∀ call ∈ calls, m.isCalledBy call = false := by
        have hfilter : calls.filter m.isCalledBy = [] := List.forall₂_nil_right_iff.1 h
        simpa using List.filter_eq_nil_iff.1 hfilter
      refine ⟨iff_of_true rfl hnone, fun call hcall hm => ?_⟩
      rw [hnone call hcall] at hm
      cases hm
  | some a =>
      obtain ⟨call, _, ha, hnil, hfilter⟩ := List.forall₂_cons_right_iff.1 h
      cases hnil
      obtain ⟨hgives, hne⟩ := hread call a ha
      obtain ⟨hmem, hcall⟩ := List.mem_filter.1 (hfilter ▸ List.mem_singleton_self call)
      refine ⟨iff_of_false hne fun hnone => ?_, fun call' hmem' hcall' => ?_⟩
      · rw [hnone call hmem] at hcall
        cases hcall
      · -- There is only one call of the method.
        have hsingle := hfilter ▸ List.mem_filter.2 ⟨hmem', hcall'⟩
        rwa [List.mem_singleton.1 hsingle]

theorem Method.Shows.append_left {α : Type} {m : Method} {Gives : Text → α → Prop} {absent : α}
    {calls others : List Text} {value : α} (h : m.Shows Gives absent calls value)
    (hothers : ∀ call ∈ others, m.isCalledBy call = false) :
    m.Shows Gives absent (others ++ calls) value := by
  refine ⟨h.absent_iff.trans ?_, fun call hcall hm => ?_⟩
  · rw [List.forall_mem_append, and_iff_right hothers]
  · rcases List.mem_append.1 hcall with hcall | hcall
    · rw [hothers call hcall] at hm
      cases hm
    · exact h.given call hcall hm

/-- Whether what is asked for at an end is what the calls there say. -/
structure EndRequest.Shows (r : EndRequest) (calls : List Text) : Prop where
  select : Method.select.Shows (fun call names => IsSelection names call) [] calls r.select
  metadata : Method.metadata.Shows (fun call value => ∃ entries,
    Metadata.IsWritten entries call ∧ value.Holds (entries.map fun e => (e.1, e.2.toJson)))
    Keyed.empty calls r.metadata

/-- Whether a request says what the calls on the two sides of a transmission say. -/
structure LinkRequest.Shows (r : LinkRequest) (lefts rights : List Text) : Prop where
  channel : r.channel.Shows lefts
  scratch : r.scratch.Shows rights
  qos : Method.qos.Shows (fun call value => ∃ q : Qos, q.IsWritten call ∧ value.Holds q.entries)
    Keyed.empty (lefts ++ rights) r.qos
  id : Method.id.Shows (fun call id => IsIdentifier id call) [] (lefts ++ rights) r.id

namespace Chain

variable {kind : EndpointKind} {name : Text} {calls : List Text} {c : Chain}

theorem IsMadeOf.shows_request (h : IsMadeOf kind name calls c) :
    c.pathEnd.request.Shows calls := by
  constructor
  case select =>
    have hread (call : Text) (names : List Text) (hnames : selection call = .ok names) :
        IsSelection names call ∧ names ≠ [] :=
      have hwritten := selection_eq_ok_iff.1 hnames
      ⟨hwritten, hwritten.1⟩
    have hselect := h.select.shows (f := fun names => names) hread
    rwa [Option.map_id'] at hselect
  case metadata =>
    show Method.metadata.Shows _ _ _ (c.metadata.getD Keyed.empty).toJson
    rw [← Option.getD_map Metadata.toJson]
    refine h.metadata.shows fun call m hm => ?_
    obtain ⟨entries, hwritten, hholds⟩ := Metadata.exists_isWritten_of_ofText hm
    have hjson := hholds.mapValues Literal.toJson
    exact ⟨⟨entries, hwritten, hjson⟩, hjson.ne_empty (by simpa using hwritten.1)⟩

/-- Only a chain of the scratch has a quality of service and an identifier. -/
theorem IsMadeOf.not_isCalledBy (h : IsMadeOf .channel name calls c) {m : Method}
    (hm : ¬EndpointKind.channel.admits m) : ∀ call ∈ calls, m.isCalledBy call = false := by
  intro call hcall
  obtain ⟨n, hn, hadmits⟩ := h.admitted call hcall
  rw [isCalledBy_eq hn]
  exact decide_eq_false fun heq => hm (heq ▸ hadmits)

end Chain

/-! Links. -/

/-- The transmissions at the top and in event blocks. -/
def BloomBlock.transmissions (b : BloomBlock) : List Transmission :=
  b.rules.transmissions ++ b.events.flatMap fun e => e.rules.transmissions

namespace Code

/-- The links that always hold, and those that hold with an event. -/
def links (c : Code) : List ServiceLink :=
  c.rules.links ++ c.events.flatMap fun e => e.rules.links

/-- The links of code are those of the transmissions. -/
theorem mem_links_ofDescriptions_iff {overlay : Text} {ds : List Description} {l : ServiceLink} :
    l ∈ (ofDescriptions overlay ds).links ↔ ∃ d ∈ ds, ∃ t ∈ d.bloom.transmissions, t.link = l := by
  rw [ofDescriptions, foldl_add, links]
  show l ∈ ((ds.map fun d => d.bloom.rules).foldl RulesCode.add .empty).links ++ _ ↔ _
  rw [RulesCode.foldl_add]
  simp only [RulesCode.empty, empty, EventBlock.code, RulesCode.add, List.nil_append,
    List.mem_append, List.mem_flatMap, List.mem_map, BloomBlock.transmissions]
  constructor
  · rintro (⟨_, ⟨d, hd, rfl⟩, t, ht, rfl⟩ | ⟨_, ⟨d, hd, e, he, rfl⟩, hl⟩)
    · exact ⟨d, hd, t, .inl ht, rfl⟩
    · obtain ⟨t, ht, rfl⟩ := List.mem_map.1 hl
      exact ⟨d, hd, t, .inr ⟨e, he, ht⟩, rfl⟩
  · rintro ⟨d, hd, t, ht | ⟨e, he, ht⟩, rfl⟩
    · exact .inl ⟨_, ⟨d, hd, rfl⟩, t, ht, rfl⟩
    · exact .inr ⟨_, ⟨d, hd, e, he, rfl⟩, List.mem_map_of_mem ht⟩

end Code

theorem BloomBlock.mem_allRules_of_mem_transmissions {b : BloomBlock} {t : Transmission}
    (h : t ∈ b.transmissions) : .transmission t ∈ b.allRules := by
  rcases List.mem_append.1 h with h | h
  · exact List.mem_append_left _ (List.mem_append_left _ (List.mem_map_of_mem h))
  · obtain ⟨e, he, ht⟩ := List.mem_flatMap.1 h
    exact List.mem_append_right _ (List.mem_flatMap.2
      ⟨e, he, List.mem_append_left _ (List.mem_map_of_mem ht)⟩)

namespace Transmission

theorem ofUnit_of_ofItem {s : StateBlock} {i : Item} {t : Transmission}
    (h : Rule.ofItem s i = .ok (.transmission t)) : ofUnit s t.unit = .ok t := by
  have hunit : t.unit = i.unit := Rule.unit_of_ofItem h
  cases Rule.ofItem_eq_ok_iff.1 h with
  | transmission _ ht => rwa [hunit]

theorem ofUnit_of_mem_transmissions {text : Text} {d : Description}
    (h : Description.ofText text = .ok d) {t : Transmission} (ht : t ∈ d.bloom.transmissions) :
    ofUnit d.state t.unit = .ok t := by
  simp only [Description.ofText, Except.bind_eq_ok_iff, Except.pure_eq_ok_iff] at h
  obtain ⟨_, -, _, -, _, -, _, -, state, -, bloom, hbloom, rfl⟩ := h
  obtain ⟨i, hi⟩ := BloomBlock.exists_item_of_mem_allRules hbloom
    (BloomBlock.mem_allRules_of_mem_transmissions ht)
  exact ofUnit_of_ofItem hi

/-- The request of a link shows the calls of its transmission. -/
theorem exists_calls_of_ofUnit {s : StateBlock} {u : SourceUnit} {t : Transmission}
    (h : ofUnit s u = .ok t) : ∃ lefts rights,
      IsCut u.text (t.channel.name :: lefts) (t.scratch.name :: rights) ∧
        t.link.request.Shows lefts rights := by
  obtain ⟨left, right, channel, scratch, destination, source, hparts, hchannel, hscratch,
    hdestination, hsource, rfl⟩ := ofUnit_eq_ok_iff.1 h
  obtain ⟨lefts, hlefts, -, hleft⟩ := Chain.ofText_eq_ok_iff.1 hchannel
  obtain ⟨rights, hrights, -, hright⟩ := Chain.ofText_eq_ok_iff.1 hscratch
  refine ⟨lefts, rights, ⟨left, right, hparts, hlefts, hrights⟩, ?_⟩
  constructor
  case channel => exact hleft.shows_request
  case scratch => exact hright.shows_request
  case qos =>
    refine (hright.qos.shows fun call q hq => ?_).append_left
      (hleft.not_isCalledBy (by simp [EndpointKind.admits]))
    exact ⟨⟨q, Qos.ofText_eq_ok_iff.1 hq, q.holds_toJson⟩,
      q.holds_toJson.ne_empty (List.cons_ne_nil _ _)⟩
  case id =>
    have hid := hright.id.shows (f := fun id => id) fun call id hcall => by
      have hwritten := identifier_eq_ok_iff.1 hcall
      exact ⟨hwritten, hwritten.1⟩
    rw [Option.map_id'] at hid
    exact hid.append_left (hleft.not_isCalledBy (by simp [EndpointKind.admits]))

/-- The empty values of a link can be taken for nothing else. If a transmission is accepted,
its text is cut into the names and the calls of its two sides, and its link has an empty
identifier, an empty quality of service, and at each end an empty selection and empty
metadata, just if there is no call of `id`, of `qos`, and on this side none of `select` and
none of `meta`; and else it has what such a call gives. The links of code are those of the
transmissions of its descriptions, and these were accepted. -/
theorem link_shows_calls :
    (∀ s u t, ofUnit s u = .ok t → ∃ lefts rights,
      IsCut u.text (t.channel.name :: lefts) (t.scratch.name :: rights) ∧
        t.link.request.Shows lefts rights) ∧
    (∀ overlay ds l, l ∈ (Code.ofDescriptions overlay ds).links ↔
      ∃ d ∈ ds, ∃ t ∈ d.bloom.transmissions, t.link = l) ∧
    (∀ text d, Description.ofText text = .ok d → ∀ t ∈ d.bloom.transmissions,
      ofUnit d.state t.unit = .ok t) :=
  ⟨fun _ _ _ => exists_calls_of_ofUnit, fun _ _ _ => Code.mem_links_ofDescriptions_iff,
    fun _ _ h _ => ofUnit_of_mem_transmissions h⟩

/-- Transmissions without a call, and with calls on both sides. -/
def sparing : Text := ['\n'].intercalate ([
  "state do",
  "  @a: discovery(kind=\"meter\")",
  "  scratch s: @a",
  "  channel c: @a",
  "end",
  "bloom do",
  "  c <~ s",
  "  c.meta(k=1).select(x) <~ s.id(\"x\").qos(2.5, 1)",
  "end"].map String.toList)

theorem link_shows_calls_sparing : ∃ d, Description.ofText sparing = .ok d ∧
    d.bloom.transmissions.map (fun t => t.link.request.id) = [[], ['x']] ∧
    ∀ t ∈ d.bloom.transmissions, ∃ lefts rights,
      IsCut t.unit.text (t.channel.name :: lefts) (t.scratch.name :: rights) ∧
        t.link.request.Shows lefts rights := by
  have hids : (Description.ofText sparing).toOption.map
      (fun d => d.bloom.transmissions.map fun t => t.link.request.id) = some [[], ['x']] := by
    -- Lists of characters cost the kernel less than the literals they come from.
    simp only [sparing, List.map_cons, List.map_nil]
    repeat rw [String.toList_ofList]
    decide +kernel
  obtain ⟨d, h, hrequested⟩ := Except.exists_ok_of_map hids
  obtain ⟨haccepted, -, hread⟩ := link_shows_calls
  exact ⟨d, h, hrequested, fun t ht => haccepted _ _ t (hread _ d h t ht)⟩

end Transmission

end Overlay
