import Overlay.Processing
import Overlay.Proofs.Call

/-!
Checks of processing. What a window, a ratio, an aggregation or a virtual property
must satisfy holds of each that was read, wherever in a chain of calls it stands:
the order and the bounds of its numbers, which are compared as floats, and the
presence of its parts.
-/

namespace Overlay

/-- The order of floats is total. -/
theorem Float64.le_of_lt_eq_false {x y : Float64} (h : y.lt x = false) : x.le y = true := by
  cases x with
  | finite a =>
      cases y with
      | finite b =>
          simp only [lt, le, compare, beq_eq_false_iff_ne, bne_iff_ne] at h ⊢
          intro hgt
          exact h (Std.OrientedOrd.eq_swap.trans (by rw [hgt]; rfl))
      | infinite n =>
          cases n with
          | false => rfl
          | true => cases h
  | infinite m =>
      cases y with
      | finite b =>
          cases m with
          | false => cases h
          | true => rfl
      | infinite n =>
          revert h
          cases m <;> cases n <;> decide

namespace Literal

/-- Whether a literal is a number above zero. -/
def IsPositive (l : Literal) : Prop := ∃ x, l.asFloat? = some x ∧ x.isPositive = true

/-- Whether a literal is a number that is not below zero. -/
def IsNonnegative (l : Literal) : Prop := ∃ x, l.asFloat? = some x ∧ Float64.zero.le x = true

/-- Whether a literal is a number between a limit and its negative. -/
def Within (limit : Int) (l : Literal) : Prop :=
  ∃ x, l.asFloat? = some x ∧ (Float64.ofInt (-limit)).le x = true ∧
    x.le (Float64.ofInt limit) = true

/-- Whether two literals are numbers, the first at most the second. -/
def AtMost (a b : Literal) : Prop :=
  ∃ x y, a.asFloat? = some x ∧ b.asFloat? = some y ∧ x.le y = true

end Literal

theorem checkPositive_eq_ok_iff {what : Quantity} {l : Literal} {x : Unit} :
    checkPositive what l = .ok x ↔ l.IsPositive := by
  rw [checkPositive, Literal.IsPositive, ← Option.any_eq_true]
  split <;> simp_all

/-! Windows. -/

/-- Points in time are in order, one way or the other. -/
theorem Instant.eq_or_isAfter {a b : Instant} (h : a.isAfter b = false) :
    b = a ∨ b.isAfter a = true := by
  have hnot : ¬ b.fields < a.fields := of_decide_eq_false h
  by_cases hlt : a.fields < b.fields
  · exact .inr (decide_eq_true hlt)
  · have heq : b.fields = a.fields := List.le_antisymm (List.not_lt.1 hlt) (List.not_lt.1 hnot)
    left
    cases a
    cases b
    simpa [fields] using heq

/-- What is checked of a time window. -/
structure TimeWindow.IsChecked (w : TimeWindow) : Prop where
  ordered : w.finish = w.start ∨ w.finish.isAfter w.start = true
  interval : 0 < w.interval.toInt

theorem TimeWindow.isChecked_of_ofText {t : Text} {w : TimeWindow} (h : ofText t = .ok w) :
    w.IsChecked := by
  simp only [ofText, Except.bind_eq_ok_iff] at h
  obtain ⟨args, -, start, -, finish, -, interval, -, unitName, -, h⟩ := h
  split at h
  · cases h
  · split at h
    · cases h
    · next hafter =>
      split at h
      · cases h
      · next hinterval =>
        simp only [Except.bind_eq_ok_iff, Except.pure_eq_ok_iff] at h
        obtain ⟨name, -, rfl⟩ := h
        exact {
          ordered := Instant.eq_or_isAfter (by simpa using hafter)
          interval := Int.not_le.1 hinterval }

namespace SpaceWindow

/-- What is checked of a space window. -/
structure IsChecked (w : SpaceWindow) : Prop where
  west : w.west.Within 180
  south : w.south.Within 90
  east : w.east.Within 180
  north : w.north.Within 90
  longitudes : w.west.AtMost w.east
  latitudes : w.south.AtMost w.north
  latitudeInterval : w.latitudeInterval.IsPositive
  longitudeInterval : w.longitudeInterval.IsPositive

theorem within_of_checkEdge {edge : Edge} {l : Literal} {x : Unit}
    (h : checkEdge edge l = .ok x) : l.Within edge.limit := by
  simp only [checkEdge] at h
  split at h
  · next hany =>
    obtain ⟨y, hy, hinside⟩ := (Option.any_eq_true _ _).1 hany
    obtain ⟨hlow, hhigh⟩ := Bool.and_eq_true_iff.1 hinside
    exact ⟨y, hy, hlow, hhigh⟩
  · cases h

theorem atMost_of_checkOrder {low high : Edge} {a b : Literal} {m n : Int} {x : Unit}
    (h : checkOrder low high a b = .ok x) (ha : a.Within m) (hb : b.Within n) : a.AtMost b := by
  obtain ⟨y, hy, -⟩ := ha
  obtain ⟨z, hz, -⟩ := hb
  rw [checkOrder, hy, hz] at h
  split at h
  · next heq heq' =>
    cases heq
    cases heq'
    split at h
    · cases h
    · next hlt => exact ⟨y, z, hy, hz, Float64.le_of_lt_eq_false (by simpa using hlt)⟩
  · next hnone => exact absurd rfl (hnone _ _ rfl)

theorem isChecked_of_check {w : SpaceWindow} {x : Unit} (h : w.check = .ok x) :
    w.IsChecked := by
  simp only [check, Except.bind_eq_ok_iff] at h
  obtain ⟨_, hwest, _, hsouth, _, heast, _, hnorth, _, hlongitudes, _, hlatitudes, _, hlatitude,
    hlongitude⟩ := h
  have hwest := within_of_checkEdge hwest
  have hsouth := within_of_checkEdge hsouth
  have heast := within_of_checkEdge heast
  have hnorth := within_of_checkEdge hnorth
  exact {
    west := hwest
    south := hsouth
    east := heast
    north := hnorth
    longitudes := atMost_of_checkOrder hlongitudes hwest heast
    latitudes := atMost_of_checkOrder hlatitudes hsouth hnorth
    latitudeInterval := checkPositive_eq_ok_iff.1 hlatitude
    longitudeInterval := checkPositive_eq_ok_iff.1 hlongitude }

theorem isChecked_of_ofText {t : Text} {w : SpaceWindow} (h : ofText t = .ok w) :
    w.IsChecked := by
  simp only [ofText, Except.bind_eq_ok_iff, Except.pure_eq_ok_iff] at h
  obtain ⟨_, -, _, -, _, -, _, -, _, -, _, -, _, -, _, -, _, -, _, hcheck, rfl⟩ := h
  exact isChecked_of_check hcheck

end SpaceWindow

/-! Aggregations. -/

namespace Aggregate

/-- What is checked of an aggregation. -/
structure IsChecked (a : Aggregate) : Prop where
  function : a.function.name ∈ ["avg", "sum", "min", "max", "count"]
  window : a.time ≠ none ∨ a.space ≠ none
  time : ∀ w ∈ a.time, w.IsChecked
  space : ∀ w ∈ a.space, w.IsChecked

/-- Whether the windows that an aggregation has so far are checked. -/
structure WindowsChecked (a : Aggregate) : Prop where
  time : ∀ w ∈ a.time, w.IsChecked
  space : ∀ w ∈ a.space, w.IsChecked

theorem windowsChecked_of_addWindow {a b : Aggregate} {t : Text} (h : a.addWindow t = .ok b)
    (ha : a.WindowsChecked) : b.WindowsChecked ∧ (b.time ≠ none ∨ b.space ≠ none) := by
  unfold addWindow at h
  split at h
  · split at h
    · cases h
    · simp only [Except.bind_eq_ok_iff, Except.pure_eq_ok_iff] at h
      obtain ⟨w, hw, rfl⟩ := h
      refine ⟨⟨?_, ha.space⟩, .inl (Option.some_ne_none w)⟩
      intro v hv
      cases hv
      exact TimeWindow.isChecked_of_ofText hw
  · split at h
    · cases h
    · simp only [Except.bind_eq_ok_iff, Except.pure_eq_ok_iff] at h
      obtain ⟨w, hw, rfl⟩ := h
      refine ⟨⟨ha.time, ?_⟩, .inr (Option.some_ne_none w)⟩
      intro v hv
      cases hv
      exact SpaceWindow.isChecked_of_ofText hw
  · cases h

theorem isChecked_of_ofText {t : Text} {a : Aggregate} (h : ofText t = .ok a) :
    a.IsChecked := by
  simp only [ofText, Except.bind_eq_ok_iff] at h
  obtain ⟨ts, -, _, hcount, args, -, name, -, functionName, -, h⟩ := h
  split at h
  · cases h
  · next function _ =>
    have hlen : 3 ≤ ts.length := by
      unfold Method.expectBetween at hcount
      split at hcount
      · cases hcount
      · omega
    have hne : ts.drop 2 ≠ [] := by
      rw [Ne, List.drop_eq_nil_iff]
      omega
    -- The first window is what makes one be there; none of the others takes it away.
    obtain ⟨first, rest, heq⟩ := List.exists_cons_of_ne_nil hne
    rw [heq, List.foldlM_cons, Except.bind_eq_ok_iff] at h
    obtain ⟨b, hb, h⟩ := h
    have hempty : WindowsChecked ⟨name, function, none, none⟩ := ⟨by simp, by simp⟩
    obtain ⟨hwindows, hpresent⟩ := Except.holds_of_foldlM h
      (windowsChecked_of_addWindow hb hempty)
      fun hstep hdone => windowsChecked_of_addWindow hstep hdone.1
    exact {
      function := by cases a.function <;> decide
      window := hpresent
      time := hwindows.time
      space := hwindows.space }

end Aggregate

/-! Virtual properties, ratios and processing. -/

/-- What is checked of a virtual property: its expression is not blank. -/
def VirtualProperty.IsChecked (p : VirtualProperty) : Prop := p.expression.allBlank = false

theorem VirtualProperty.isChecked_of_ofText {t : Text} {p : VirtualProperty}
    (h : ofText t = .ok p) : p.IsChecked := by
  simp only [ofText, Except.bind_eq_ok_iff] at h
  obtain ⟨args, -, expression, -, h⟩ := h
  split at h
  · cases h
  · next hblank =>
    simp only [Except.bind_eq_ok_iff, Except.pure_eq_ok_iff] at h
    obtain ⟨name, -, rfl⟩ := h
    simpa [IsChecked] using hblank

/-- What is checked of a ratio: it is above zero and at most one. -/
def Ratio.IsChecked (r : Ratio) : Prop :=
  0 < r.numerator.toInt ∧ r.numerator.toInt ≤ r.denominator.toInt

theorem Ratio.isChecked_of_ofArguments {args : List Argument} {r : Ratio}
    (h : ofArguments args = .ok r) : r.IsChecked := by
  simp only [ofArguments, Except.bind_eq_ok_iff] at h
  obtain ⟨numerator, -, denominator, -, h⟩ := h
  split at h
  · next hproper =>
    cases h
    simpa [isProper, IsChecked] using hproper
  · cases h

namespace Processing

/-- What is checked of a call that processes data. -/
def IsChecked : Processing → Prop
  | cullTime ratio window => ratio.IsChecked ∧ window.IsChecked
  | cullSpace ratio window => ratio.IsChecked ∧ window.IsChecked
  | aggregate a => a.IsChecked
  | virtual p => p.IsChecked
  | filter _ | string _ _ _ => True

theorem isChecked_of_ofText {m : Method} {t : Text} {p : Processing} (h : ofText m t = .ok p) :
    p.IsChecked := by
  unfold ofText at h
  split at h
  · simp only [Except.bind_eq_ok_iff, Except.pure_eq_ok_iff] at h
    obtain ⟨_, -, _, -, condition, -, rfl⟩ := h
    trivial
  · simp only [Except.bind_eq_ok_iff, Except.pure_eq_ok_iff] at h
    obtain ⟨args, -, ratio, hratio, _, -, window, hwindow, rfl⟩ := h
    exact ⟨Ratio.isChecked_of_ofArguments hratio, TimeWindow.isChecked_of_ofText hwindow⟩
  · simp only [Except.bind_eq_ok_iff, Except.pure_eq_ok_iff] at h
    obtain ⟨args, -, ratio, hratio, _, -, window, hwindow, rfl⟩ := h
    exact ⟨Ratio.isChecked_of_ofArguments hratio, SpaceWindow.isChecked_of_ofText hwindow⟩
  · obtain ⟨a, ha, rfl⟩ := Except.map_eq_ok_iff.1 h
    exact Aggregate.isChecked_of_ofText ha
  · simp only [Except.bind_eq_ok_iff, Except.pure_eq_ok_iff] at h
    obtain ⟨_, -, _, -, _, -, _, -, pattern, -, rfl⟩ := h
    trivial
  · obtain ⟨q, hq, rfl⟩ := Except.map_eq_ok_iff.1 h
    exact VirtualProperty.isChecked_of_ofText hq
  · cases h

end Processing

end Overlay
