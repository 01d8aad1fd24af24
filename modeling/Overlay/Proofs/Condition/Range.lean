import Overlay.Proofs.Condition.Comparison

/-!
Ranges of conditions that were read. A range is read only if its ends are in order as
floats, whereas its test compares whole numbers exactly. So the first end is at most the
second one, and passes the test, unless both have the same nearest float.
-/

namespace Overlay

open Float64 (unitsPerOne nearestSigned)

/-- Whether two whole numbers are in falling order but have the same nearest float. -/
def Crossed (lo hi : Int64) : Prop :=
  hi.toInt < lo.toInt ∧ (Float64.ofInt lo.toInt).compare (.ofInt hi.toInt) = .eq

namespace Test

/-- The ranges in a test, under any number of negations. -/
inductive HasRange (low high : Literal) : Test → Prop
  | self : HasRange low high (.range low high)
  | negation {test : Test} : HasRange low high test → HasRange low high (.negation test)

/-- The test of a range at its first end. -/
theorem check_range_low (lo hi : Int64) :
    (Test.range (.integer lo) (.integer hi)).check (.ofInt64 lo) =
      some (decide (lo.toInt ≤ hi.toInt)) := by
  have hcheck : (Test.range (.integer lo) (.integer hi)).check (.ofInt64 lo) =
      some (Sign.ge.accepts (Ord.compare lo.toInt lo.toInt) &&
        Sign.le.accepts (Ord.compare lo.toInt hi.toInt)) := by
    simp [Test.check, Json.ofInt64, Json.compare?_integer]
  rw [hcheck, Std.compare_self]
  rcases Int.lt_trichotomy lo.toInt hi.toInt with h | h | h
  · rw [Int.compare_eq_lt.2 h, decide_eq_true (Int.le_of_lt h)]
    rfl
  · rw [h, Std.compare_self, decide_eq_true (Int.le_refl _)]
    rfl
  · rw [Int.compare_eq_gt.2 h, decide_eq_false (Int.not_le.2 h)]
    rfl

/-- What is asked of the ends of a range when it is read. -/
def RangesInOrder (test : Test) : Prop :=
  ∀ low high, test.HasRange low high → low.sameType high = true ∧ Leaf.inOrder low high = true

end Test

namespace Leaf

theorem compare_ofInt (a b : Int64) : (Float64.ofInt a.toInt).compare (.ofInt b.toInt) =
    Ord.compare (nearestSigned (a.toInt * unitsPerOne))
      (nearestSigned (b.toInt * unitsPerOne)) := by
  have h := map_compare_asFloat? (n := .whole (.ofInt64 a)) (t := .integer b) rfl
  exact Option.some.inj h

/-- The ends that are in order for the reader. -/
theorem inOrder_integer_iff {lo hi : Int64} :
    inOrder (.integer lo) (.integer hi) = true ↔ lo.toInt ≤ hi.toInt ∨ Crossed lo hi := by
  have horder : inOrder (.integer lo) (.integer hi) =
      ((Float64.ofInt lo.toInt).compare (.ofInt hi.toInt) != .gt) := rfl
  rw [horder, Crossed, compare_ofInt]
  have hone : (0 : Int) ≤ unitsPerOne := Int.natCast_nonneg _
  have hmono {a b : Int} (h : a ≤ b) :
      nearestSigned (a * unitsPerOne) ≤ nearestSigned (b * unitsPerOne) :=
    Float64.nearestSigned_mono (Int.mul_le_mul_of_nonneg_right h hone)
  by_cases hle : lo.toInt ≤ hi.toInt
  · refine iff_of_true ?_ (.inl hle)
    rcases Int.lt_or_eq_of_le (hmono hle) with hlt | heq
    · rw [Int.compare_eq_lt.2 hlt]
      rfl
    · rw [heq, Std.compare_self]
      rfl
  · have hlt : hi.toInt < lo.toInt := Int.not_le.1 hle
    rw [or_iff_right hle, and_iff_right hlt]
    rcases Int.lt_or_eq_of_le (hmono (Int.le_of_lt hlt)) with hlt | heq
    · rw [Int.compare_eq_gt.2 hlt]
      decide
    · rw [heq, Std.compare_self]
      decide

theorem rangesInOrder_of_ofRange {t : Text} {l : Leaf} (h : ofRange t = .ok l) :
    l.test.RangesInOrder := by
  obtain ⟨_, name, low, high, -, -, -, -, htype, horder, rfl⟩ := ofRange_eq_ok_iff.1 h
  rintro _ _ ⟨⟩
  exact ⟨htype, horder⟩

/-- The ends of all ranges in a leaf were in order when it was read. -/
theorem rangesInOrder_of_ofText {t : Text} {l : Leaf} (h : ofText t = .ok l) :
    l.test.RangesInOrder := by
  refine ofText_induct (fun _ l => l.test.RangesInOrder)
    ?state ?comparison ?like ?range ?negation h
  case state =>
    intro t l h
    obtain ⟨name, state, -, -, -, rfl⟩ := ofEventState?_eq_some_iff.1 h
    rintro _ _ ⟨⟩
  case comparison =>
    intro t l _ h
    obtain ⟨name, sign, operand, threshold, -, -, rfl⟩ := ofComparison_eq_ok_iff.1 h
    rintro _ _ ⟨⟩
  case like =>
    intro t l _ _ _ h
    simp only [ofLike, Except.bind_eq_ok_iff, Except.pure_eq_ok_iff] at h
    obtain ⟨args, -, name, -, source, -, pattern, -, rfl⟩ := h
    rintro _ _ ⟨⟩
  case range => exact fun _ _ _ _ h => rangesInOrder_of_ofRange h
  case negation =>
    rintro t inner l _ _ _ _ _ _ ih low high ⟨⟩
    exact ih _ _ ‹_›

end Leaf

namespace Condition

/-- Each leaf of a condition was read from a text. -/
theorem exists_ofText_of_mem_leaves {t : Text} {c : Condition} (h : ofText t = .ok c) {l : Leaf}
    (hl : l ∈ c.leaves) : ∃ s, Leaf.ofText s = .ok l := by
  refine ofText_induct (fun _ c => ∀ l ∈ c.leaves, ∃ s, Leaf.ofText s = .ok l)
    ?node ?parens ?leaf h l hl
  case node =>
    intro t k parts cs _ _ _ hparts l hl
    obtain ⟨c, hc, hlc⟩ := mem_leaves_node.1 hl
    obtain ⟨p, -, -, hp⟩ := forall₂_exists_of_mem_right hparts hc
    exact hp l hlc
  case parens => exact fun _ _ _ _ ih => ih
  case leaf =>
    intro t l _ _ _ hl l' hl'
    obtain rfl := List.mem_singleton.1 hl'
    exact ⟨t, hl⟩

/-- In every range with whole numbers for its ends that is part of a condition which was
read, the first end is at most the second one, and passes the test, unless they are in
falling order and have the same nearest float; then one of them is beyond `2 ^ 53`. -/
theorem range_le_iff {t : Text} {c : Condition} (h : ofText t = .ok c) {l : Leaf}
    (hl : l ∈ c.leaves) {lo hi : Int64} (hrange : l.test.HasRange (.integer lo) (.integer hi)) :
    (lo.toInt ≤ hi.toInt ↔ ¬ Crossed lo hi) ∧
      ((Test.range (.integer lo) (.integer hi)).check (.ofInt64 lo) = some true ↔
        ¬ Crossed lo hi) ∧
      (Crossed lo hi → 1 <<< 53 < lo.toInt.natAbs ∨ 1 <<< 53 < hi.toInt.natAbs) := by
  obtain ⟨s, hs⟩ := exists_ofText_of_mem_leaves h hl
  have horder := Leaf.inOrder_integer_iff.1 (Leaf.rangesInOrder_of_ofText hs _ _ hrange).2
  have hle : lo.toInt ≤ hi.toInt ↔ ¬ Crossed lo hi :=
    ⟨fun hle hcrossed => Int.not_le.2 hcrossed.1 hle, horder.resolve_right⟩
  refine ⟨hle, ?_, fun hcrossed => ?_⟩
  case refine_1 => rw [Test.check_range_low, Option.some_inj, decide_eq_true_iff, hle]
  case refine_2 =>
    by_contra hlarge
    obtain ⟨hlo, hhi⟩ := not_or.1 hlarge
    obtain ⟨hlt, hsame⟩ := hcrossed
    rw [Leaf.compare_ofInt, nearestSigned_mul_unitsPerOne hlo, nearestSigned_mul_unitsPerOne hhi,
      compare_mul_unitsPerOne, Int.compare_eq_gt.2 hlt] at hsame
    cases hsame

theorem range_le_under_not :
    ∃ c l, ofText "a.on && not range(b, -1, 2)".toList = .ok c ∧ l ∈ c.leaves ∧
      l.test.HasRange (.integer (-1)) (.integer 2) ∧ (-1 : Int64).toInt ≤ (2 : Int64).toInt := by
  have h : ofText "a.on && not range(b, -1, 2)".toList = .ok (.all
      [.leaf ⟨['a'], .compare .eq (.string "on".toList)⟩,
        .leaf ⟨['b'], .negation (.range (.integer (-1)) (.integer 2))⟩]) := by decide +kernel
  refine ⟨_, ⟨['b'], .negation (.range (.integer (-1)) (.integer 2))⟩, h, ?_, .negation .self, ?_⟩
  · exact List.mem_cons_of_mem _ List.mem_cons_self
  · refine (range_le_iff h (List.mem_cons_of_mem _ List.mem_cons_self) (.negation .self)).1.2 ?_
    exact fun hcrossed => absurd hcrossed.1 (by decide)

/-- The two ends have the same nearest float, so this range is read, but its first end
does not pass its test. -/
theorem crossed_range_is_read :
    ofText "range(a, 9007199254740993, 9007199254740992)".toList =
        .ok (.leaf ⟨['a'], .range (.integer 9007199254740993) (.integer 9007199254740992)⟩) ∧
      ¬ (9007199254740993 : Int64).toInt ≤ (9007199254740992 : Int64).toInt ∧
      (Test.range (.integer 9007199254740993) (.integer 9007199254740992)).check
        (.ofInt64 9007199254740993) = some false := by
  refine ⟨?_, by decide, ?_⟩
  · decide +kernel
  · decide +kernel

end Condition

end Overlay
