import Overlay.Proofs.Checks.Rule
import Overlay.Proofs.Description
import Overlay.Proofs.Text.Split

/-!
Checks of a description. Every rule of a description was read from an item, at the
top of the bloom block or in an event block, and every service from a unit, so what
is checked when they are read holds throughout.
-/

namespace Overlay

/-! Queries for services. -/

/-- Whether a criterion may stand under a key: a count under the key for counts,
some literals under any other. -/
def Criterion.Fits (key : Text) : Criterion → Prop
  | count n => key = Query.multi ∧ 1 ≤ n.toInt
  | literals ls => key ≠ Query.multi ∧ ls ≠ []

theorem Criterion.one_le_of_countOf {t : Text} {n : Int64} (h : countOf t = .ok n) :
    1 ≤ n.toInt := by
  simp only [countOf, Except.bind_eq_ok_iff] at h
  obtain ⟨l, -, h⟩ := h
  split at h
  · split at h
    · cases h
      assumption
    · cases h
  · cases h

theorem Criterion.ne_nil_of_literalsOf {t : Text} {ls : List Literal}
    (h : literalsOf t = .ok ls) : ls ≠ [] := by
  unfold literalsOf at h
  split at h
  · simp only [Except.bind_eq_ok_iff, Except.pure_eq_ok_iff] at h
    obtain ⟨l, -, rfl⟩ := h
    exact List.cons_ne_nil _ _
  · split at h
    · cases h
    · obtain ⟨parts, hparts, h⟩ := Except.bind_eq_ok_iff.1 h
      have hlen := (Except.mapM_eq_ok_iff.1 h).length_eq
      have hne := Text.ne_nil_of_split (List.cons_ne_nil _ _) hparts
      rintro rfl
      exact hne (List.length_eq_zero_iff.1 hlen)

namespace Query

/-- Whether all criteria of a query fit their keys. -/
def Fits (q : Query) : Prop := ∀ key c, q.find? key = some c → c.Fits key

theorem Fits.insert {q : Query} (hq : q.Fits) {key : Text} {c : Criterion} (hc : c.Fits key) :
    Fits (Keyed.insert q key c) := by
  intro k d hd
  rw [Keyed.find?_insert] at hd
  split at hd
  · next heq =>
    cases hd
    exact heq ▸ hc
  · exact hq k d hd

theorem fits_of_insertNew {q q' : Query} (hq : q.Fits) {key : Text} {c : Criterion}
    (hc : c.Fits key) (h : Keyed.insertNew q key c = .ok q') : q'.Fits := by
  unfold Keyed.insertNew at h
  split at h
  · cases h
  · cases h
    exact hq.insert hc

theorem fits_of_add {q q' : Query} {t : Text} (h : add q t = .ok q') (hq : q.Fits) :
    q'.Fits := by
  simp only [add, Except.bind_eq_ok_iff] at h
  obtain ⟨⟨key, value⟩, -, h⟩ := h
  split at h
  · next hmulti =>
    obtain ⟨c, hc, h⟩ := Except.bind_eq_ok_iff.1 h
    obtain ⟨n, hn, rfl⟩ := Except.map_eq_ok_iff.1 hc
    have hfits : Criterion.Fits key (.count n) := ⟨hmulti, Criterion.one_le_of_countOf hn⟩
    exact fits_of_insertNew hq hfits h
  · next hother =>
    obtain ⟨c, hc, h⟩ := Except.bind_eq_ok_iff.1 h
    obtain ⟨ls, hls, rfl⟩ := Except.map_eq_ok_iff.1 hc
    have hfits : Criterion.Fits key (.literals ls) := ⟨hother, Criterion.ne_nil_of_literalsOf hls⟩
    exact fits_of_insertNew hq hfits h

/-- What is checked of a query: its map has a count of at least one, and a list
that is not empty under every other key. -/
structure IsChecked (q : Query) : Prop where
  count : ∃ n : Int64, q.toJson.find? multi = some (.ofInt64 n) ∧ 1 ≤ n.toInt
  lists : ∀ key v, key ≠ multi → q.toJson.find? key = some v → ∃ items, v = .array items ∧
    items ≠ []

theorem fits_withCount {q : Query} (hq : q.Fits) :
    q.withCount.Fits ∧ ∃ n, q.withCount.find? multi = some (.count n) := by
  unfold withCount
  split
  · next hcontains =>
    obtain ⟨c, hc⟩ := Option.isSome_iff_exists.1 hcontains
    have hfits := hq multi c hc
    -- What stands under the key for counts is a count.
    cases c with
    | count n => exact ⟨hq, n, hc⟩
    | literals ls => exact absurd rfl hfits.1
  · refine ⟨hq.insert ⟨rfl, by decide⟩, 1, ?_⟩
    rw [Keyed.find?_insert, if_pos rfl]

theorem isChecked_of_ofText {t : Text} {q : Query} (h : ofText t = .ok q) : q.IsChecked := by
  simp only [ofText, Except.bind_eq_ok_iff, Except.pure_eq_ok_iff] at h
  obtain ⟨ts, -, r, hr, rfl⟩ := h
  have hempty : Fits Keyed.empty := by simp [Fits]
  obtain ⟨hfits, n, hn⟩ := fits_withCount (Except.holds_of_foldlM hr hempty fits_of_add)
  constructor
  case count =>
    refine ⟨n, ?_, (hfits multi _ hn).2⟩
    rw [toJson, Keyed.find?_mapValues, hn]
    rfl
  case lists =>
    intro key v hne hv
    rw [toJson, Keyed.find?_mapValues, Option.map_eq_some_iff] at hv
    obtain ⟨c, hc, rfl⟩ := hv
    have hcriterion := hfits key c hc
    cases c with
    | count m => exact absurd hcriterion.1 hne
    | literals ls => exact ⟨_, rfl, fun hnil => hcriterion.2 (List.map_eq_nil_iff.1 hnil)⟩

end Query

theorem Service.isChecked_of_ofUnit {u : SourceUnit} {v : Service} (h : ofUnit u = .ok v) :
    v.query.IsChecked := by
  obtain ⟨_, _, -, -, hquery, -⟩ := ofUnit_eq_ok_iff.1 h
  exact Query.isChecked_of_ofText hquery

theorem Declaration.ofUnit_of_service? {i : Item} {d : Declaration} {v : Service}
    (h : ofItem i = .ok d) (hv : d.service? = some v) : Service.ofUnit i.unit = .ok v := by
  cases ofItem_eq_ok_iff.1 h with
  | service _ hs =>
      cases hv
      exact hs
  | endpoint _ _ => cases hv

theorem StateBlock.isChecked_of_ofItem {i : Item} {s : StateBlock} (h : ofItem i = .ok s) :
    ∀ v ∈ s.services, v.query.IsChecked := by
  simp only [ofItem, Except.bind_eq_ok_iff, Except.pure_eq_ok_iff] at h
  obtain ⟨_, -, is, -, ds, hds, _, -, rfl⟩ := h
  intro v hv
  obtain ⟨d, hd, hview⟩ := List.mem_filterMap.1 hv
  obtain ⟨j, -, hj⟩ := Except.exists_of_mem_mapM (mapM_of_declarationsFrom hds) hd
  exact Service.isChecked_of_ofUnit (Declaration.ofUnit_of_service? hj hview)

/-! Rules of a description. -/

namespace Rules

/-- The rules of all kinds. -/
def all (r : Rules) : List Rule :=
  r.transmissions.map .transmission ++ (r.triggers.map .trigger ++ r.merges.map .merge)

theorem mem_of_mem_all_ofList {rs : List Rule} {r : Rule} (h : r ∈ (ofList rs).all) :
    r ∈ rs := by
  have hview {α : Type} {view : Rule → Option α} {rule : α → Rule}
      (hrule : ∀ {r a}, view r = some a → rule a = r) (h : r ∈ (rs.filterMap view).map rule) :
      r ∈ rs := by
    obtain ⟨a, ha, rfl⟩ := List.mem_map.1 h
    obtain ⟨r, hr, hra⟩ := List.mem_filterMap.1 ha
    exact hrule hra ▸ hr
  rcases List.mem_append.1 h with h | h
  · refine hview (fun {r a} hr => ?_) h
    cases r <;> cases hr
    rfl
  · rcases List.mem_append.1 h with h | h
    · refine hview (fun {r a} hr => ?_) h
      cases r <;> cases hr
      rfl
    · refine hview (fun {r a} hr => ?_) h
      cases r <;> cases hr
      rfl

end Rules

theorem EventBlock.exists_item_of_mem_all {s : StateBlock} {i : Item} {e : EventBlock}
    (h : ofItem s i = .ok e) {r : Rule} (hr : r ∈ e.rules.all) :
    ∃ j, Rule.ofItem s j = .ok r := by
  simp only [ofItem, Except.bind_eq_ok_iff, Except.pure_eq_ok_iff] at h
  obtain ⟨_, -, _, -, _, -, _, -, rs, hrs, rfl⟩ := h
  obtain ⟨j, -, hj⟩ := Except.exists_of_mem_mapM hrs (Rules.mem_of_mem_all_ofList hr)
  exact ⟨j, hj⟩

namespace BloomBlock

/-- The rules at the top and in event blocks. -/
def allRules (b : BloomBlock) : List Rule := b.rules.all ++ b.events.flatMap fun e => e.rules.all

theorem exists_item_of_mem_allRules {s : StateBlock} {i : Item} {b : BloomBlock}
    (h : ofItem s i = .ok b) {r : Rule} (hr : r ∈ b.allRules) :
    ∃ j, Rule.ofItem s j = .ok r := by
  simp only [ofItem, Except.bind_eq_ok_iff, Except.pure_eq_ok_iff] at h
  obtain ⟨_, -, is, -, cs, hcs, _, -, rfl⟩ := h
  rcases List.mem_append.1 hr with hr | hr
  · obtain ⟨c, hc, hview⟩ := List.mem_filterMap.1 (Rules.mem_of_mem_all_ofList hr)
    obtain ⟨j, -, hj⟩ := Except.exists_of_mem_mapM hcs hc
    exact ⟨j, Clause.ofItem_of_rule? hj hview⟩
  · obtain ⟨e, he, hr⟩ := List.mem_flatMap.1 hr
    obtain ⟨c, hc, hview⟩ := List.mem_filterMap.1 he
    obtain ⟨j, -, hj⟩ := Except.exists_of_mem_mapM hcs hc
    exact EventBlock.exists_item_of_mem_all (Clause.ofItem_of_event? hj hview) hr

end BloomBlock

namespace Description

/-- What is checked of a description. -/
structure IsChecked (d : Description) : Prop where
  rules : ∀ r ∈ d.bloom.allRules, r.IsChecked
  services : ∀ v ∈ d.state.services, v.query.IsChecked

/-- A description that was read has passed all checks. -/
theorem all_checked_of_ofText {t : Text} {d : Description} (h : ofText t = .ok d) :
    d.IsChecked := by
  simp only [ofText, Except.bind_eq_ok_iff, Except.pure_eq_ok_iff] at h
  obtain ⟨_, -, _, -, _, -, _, -, state, hstate, bloom, hbloom, rfl⟩ := h
  constructor
  case rules =>
    intro r hr
    obtain ⟨j, hj⟩ := BloomBlock.exists_item_of_mem_allRules hbloom hr
    exact Rule.isChecked_of_ofItem hj
  case services => exact StateBlock.isChecked_of_ofItem hstate

/-- A rule of each kind, the first with a window inside of a call. -/
def guarded : Text := ['\n'].intercalate ([
  "state do",
  "  @a: discovery(kind=[\"meter\", 2], multi=3)",
  "  scratch s: @a",
  "  channel c: @a",
  "end",
  "bloom do",
  "  c <~ s.cull_space(1, 3, space(lat, long, -10, -5, 10, 5, 1, 0.5)).id(\"x\")",
  "  e <+ c.trigger(30, count > 2, v > 3)",
  "  e.on do",
  "    c <~ join(0, c, c)",
  "  end",
  "end"].map String.toList)

/-- The three rules of `guarded` have passed their checks. -/
theorem all_checked_guarded : ∃ d, ofText guarded = .ok d ∧ d.bloom.allRules.length = 3 ∧
    d.IsChecked := by
  have hcount : (ofText guarded).toOption.map (fun d => d.bloom.allRules.length) = some 3 := by
    -- Lists of characters cost the kernel less than the literals they come from.
    simp only [guarded, List.map_cons, List.map_nil]
    repeat rw [String.toList_ofList]
    decide +kernel
  obtain ⟨d, h, hrules⟩ := Except.exists_ok_of_map hcount
  exact ⟨d, h, hrules, all_checked_of_ofText h⟩

end Description

end Overlay
