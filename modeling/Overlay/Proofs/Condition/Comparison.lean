import Mathlib.Data.Rat.Cast.Order
import Overlay.Condition.Evaluation
import Overlay.Proofs.Condition.Value

/-!
Comparisons of numbers, against the exact order of their values. Two whole numbers in
the signed range are compared exactly, all other pairs by the nearest floats. Rounding
keeps the order, so a comparison can go wrong in one way only: two different numbers
have the same nearest float, and pass for equal.
-/

namespace Overlay

open Float64 (unitsPerOne nearestSigned)

/-- The number itself. The two zeros are the same number. -/
def Finite64.value (x : Finite64) : Rat := x.signed / unitsPerOne

def Number.value : Number → Rat
  | .whole n => n.val
  | .float x => x.value

/-- The number that a literal is, if it is a finite one. -/
def Literal.value? : Literal → Option Rat
  | .integer n => some n.toInt
  | .float (.finite x) => some x.value
  | _ => none

/-- What a sign says of two numbers. -/
def Sign.Relates : Sign → Rat → Rat → Prop
  | le, a, b => a ≤ b
  | ge, a, b => b ≤ a
  | eq, a, b => a = b
  | ne, a, b => a ≠ b
  | lt, a, b => a < b
  | gt, a, b => b < a

instance (s : Sign) (a b : Rat) : Decidable (s.Relates a b) :=
  match s with
  | .le => inferInstanceAs (Decidable (a ≤ b))
  | .ge => inferInstanceAs (Decidable (b ≤ a))
  | .eq => inferInstanceAs (Decidable (a = b))
  | .ne => inferInstanceAs (Decidable (a ≠ b))
  | .lt => inferInstanceAs (Decidable (a < b))
  | .gt => inferInstanceAs (Decidable (b < a))

/-- Whether a number and a threshold are whole numbers of the signed range. -/
def BothSigned (n : Number) (t : Literal) : Prop :=
  ∃ k m : Int64, n = .whole (.ofInt64 k) ∧ t = .integer m

/-- Whether a number and a threshold are different and rounding makes them the same,
as it is not kept out by both being whole numbers of the signed range. -/
def Collapses (n : Number) (t : Literal) : Prop :=
  t.value? ≠ some n.value ∧ t.asFloat?.map n.asFloat.compare = some .eq ∧ ¬ BothSigned n t

/-- Whether a number is a whole number that is not among those up to `2 ^ 53`, all of
which are floats. -/
def Number.IsLarge (n : Number) : Prop := ∃ w, n = .whole w ∧ 1 <<< 53 < w.val.natAbs

def Literal.IsLarge (t : Literal) : Prop := ∃ k, t = .integer k ∧ 1 <<< 53 < k.toInt.natAbs

section Units

def Number.units : Number → Int
  | .whole n => n.val * unitsPerOne
  | .float x => x.signed

def Literal.units? : Literal → Option Int
  | .integer n => some (n.toInt * unitsPerOne)
  | .float (.finite x) => some x.signed
  | _ => none

/-- The number that a number of units makes. -/
def ofUnits (u : Int) : Rat := u / unitsPerOne

theorem ofUnits_mul_unitsPerOne (n : Int) : ofUnits (n * unitsPerOne) = n := by
  have hone : (unitsPerOne : Rat) ≠ 0 := by
    have h := Float64.unitsPerOne_pos
    exact_mod_cast h.ne'
  rw [ofUnits]
  push_cast
  exact mul_div_cancel_right₀ _ hone

theorem ofUnits_lt {a b : Int} (h : a < b) : ofUnits a < ofUnits b := by
  have hone : (0 : Rat) < unitsPerOne := by exact_mod_cast Float64.unitsPerOne_pos
  exact div_lt_div_of_pos_right (by exact_mod_cast h) hone

theorem Number.value_eq (n : Number) : n.value = ofUnits n.units := by
  cases n with
  | whole n => exact (ofUnits_mul_unitsPerOne n.val).symm
  | float x => rfl

theorem Literal.value?_eq (t : Literal) : t.value? = t.units?.map ofUnits := by
  cases t with
  | integer n => exact congrArg some (ofUnits_mul_unitsPerOne n.toInt).symm
  | float x => cases x <;> rfl
  | string s => rfl

theorem ofUnits_inj {a b : Int} : ofUnits a = ofUnits b ↔ a = b := by
  refine ⟨fun h => ?_, congrArg ofUnits⟩
  rcases Int.lt_trichotomy a b with hlt | heq | hlt
  · exact absurd h (ofUnits_lt hlt).ne
  · exact heq
  · exact absurd h (ofUnits_lt hlt).ne'

/-- A sign accepts the order of two numbers of units when it holds of the numbers. -/
theorem Sign.accepts_compare (s : Sign) (a b : Int) :
    s.accepts (Ord.compare a b) = decide (s.Relates (ofUnits a) (ofUnits b)) := by
  rcases Int.lt_trichotomy a b with h | rfl | h
  case inl =>
    have hlt := ofUnits_lt h
    rw [Int.compare_eq_lt.2 h]
    cases s <;> simp [accepts, Relates, hlt, hlt.le, hlt.ne, hlt.not_ge, hlt.not_gt]
  case inr.inl =>
    rw [Std.compare_self]
    cases s <;> simp [accepts, Relates]
  case inr.inr =>
    have hlt := ofUnits_lt h
    rw [Int.compare_eq_gt.2 h]
    cases s <;> simp [accepts, Relates, hlt, hlt.le, hlt.ne', hlt.not_ge, hlt.not_gt]

theorem compare_mul_unitsPerOne (a b : Int) :
    Ord.compare (a * unitsPerOne) (b * unitsPerOne) = Ord.compare a b := by
  have hone : (0 : Int) < unitsPerOne := Int.natCast_pos.2 Float64.unitsPerOne_pos
  rcases Int.lt_trichotomy a b with h | rfl | h
  · rw [Int.compare_eq_lt.2 h, Int.compare_eq_lt.2 (Int.mul_lt_mul_of_pos_right h hone)]
  · rw [Std.compare_self, Std.compare_self]
  · rw [Int.compare_eq_gt.2 h, Int.compare_eq_gt.2 (Int.mul_lt_mul_of_pos_right h hone)]

/-- Rounding keeps the order of two numbers, or makes them the same. -/
theorem compare_nearestSigned {a b : Int} (h : nearestSigned a = nearestSigned b → a = b) :
    Ord.compare (nearestSigned a) (nearestSigned b) = Ord.compare a b := by
  rcases Int.lt_trichotomy a b with hlt | rfl | hlt
  · have hle := Float64.nearestSigned_mono (Int.le_of_lt hlt)
    rw [Int.compare_eq_lt.2 hlt, Int.compare_eq_lt]
    exact Int.lt_iff_le_and_ne.2 ⟨hle, fun heq => Int.ne_of_lt hlt (h heq)⟩
  · rw [Std.compare_self, Std.compare_self]
  · have hle := Float64.nearestSigned_mono (Int.le_of_lt hlt)
    rw [Int.compare_eq_gt.2 hlt, Int.compare_eq_gt]
    exact Int.lt_iff_le_and_ne.2 ⟨hle, fun heq => Int.ne_of_gt hlt (h heq.symm)⟩

end Units

section Floats

theorem Number.exists_asFloat (n : Number) :
    ∃ x : Finite64, n.asFloat = .finite x ∧ x.signed = nearestSigned n.units := by
  cases n with
  | whole n => exact Float64.exists_ofInt n
  | float x => exact ⟨x, rfl, (Float64.nearestSigned_signed x).symm⟩

theorem Literal.exists_asFloat? {t : Literal} {u : Int} (h : t.units? = some u) :
    ∃ y : Finite64, t.asFloat? = some (.finite y) ∧ y.signed = nearestSigned u := by
  cases t with
  | integer k =>
      cases h
      obtain ⟨y, hy, hsigned⟩ := Float64.exists_ofInt (.ofInt64 k)
      exact ⟨y, congrArg some hy, hsigned⟩
  | float x =>
      cases x with
      | finite x =>
          cases h
          exact ⟨x, rfl, (Float64.nearestSigned_signed x).symm⟩
      | infinite negative => cases h
  | string s => cases h

/-- The order of the nearest floats. -/
theorem map_compare_asFloat? {n : Number} {t : Literal} {u : Int} (h : t.units? = some u) :
    t.asFloat?.map n.asFloat.compare =
      some (Ord.compare (nearestSigned n.units) (nearestSigned u)) := by
  obtain ⟨x, hx, hxs⟩ := n.exists_asFloat
  obtain ⟨y, hy, hys⟩ := Literal.exists_asFloat? h
  rw [hx, hy, ← hxs, ← hys]
  rfl

theorem collapses_iff {n : Number} {t : Literal} {u : Int} (h : t.units? = some u) :
    Collapses n t ↔ n.units ≠ u ∧ nearestSigned n.units = nearestSigned u ∧ ¬ BothSigned n t := by
  rw [Collapses, Literal.value?_eq, h, map_compare_asFloat? h, n.value_eq, Option.some_inj,
    Int.compare_eq_eq, Option.map_some, ne_eq, Option.some_inj, ofUnits_inj, eq_comm (a := u)]

end Floats

namespace Json

theorem compare?_integer (k m : Int64) :
    (number (.whole (.ofInt64 k))).compare? (.integer m) = some (Ord.compare k.toInt m.toInt) := by
  simp [compare?, Whole.toInt64?_ofInt64]

/-- All numbers but two whole ones of the signed range are compared as floats. -/
theorem compare?_of_not_bothSigned {n : Number} {t : Literal} (h : ¬ BothSigned n t) :
    (number n).compare? t = t.asFloat?.map n.asFloat.compare := by
  cases t with
  | integer m =>
      cases n with
      | whole n =>
          have hbeyond : ¬ n.val ≤ Int64.maxValue.toInt := by
            intro hsigned
            refine h ⟨Int64.ofInt n.val, m, ?_, rfl⟩
            have hback : (Int64.ofInt n.val).toInt = n.val :=
              Int64.toInt_ofInt_of_le n.low (Int.lt_of_le_of_lt hsigned (by decide))
            simp [Whole.ofInt64, hback]
          simp [compare?, Whole.toInt64?, hbeyond, Literal.asFloat?, Number.asFloat]
      | float x => rfl
  | float x => cases n <;> rfl
  | string s => cases n <;> rfl

theorem compare?_of_collapses {n : Number} {t : Literal} (h : Collapses n t) :
    (number n).compare? t = some .eq := by
  obtain ⟨-, hsame, hnot⟩ := h
  rw [compare?_of_not_bothSigned hnot, hsame]

theorem compare?_of_not_collapses {n : Number} {t : Literal} {u : Int} (hu : t.units? = some u)
    (h : ¬ Collapses n t) : (number n).compare? t = some (Ord.compare n.units u) := by
  by_cases hboth : BothSigned n t
  · obtain ⟨k, m, rfl, rfl⟩ := hboth
    cases hu
    rw [compare?_integer, Number.units, compare_mul_unitsPerOne]
    rfl
  · rw [compare?_of_not_bothSigned hboth, map_compare_asFloat? hu, compare_nearestSigned]
    intro hsame
    by_contra hne
    exact h ((collapses_iff hu).2 ⟨hne, hsame, hboth⟩)

end Json

/-- A whole number up to `2 ^ 53` is a float. -/
theorem nearestSigned_mul_unitsPerOne {w : Int} (h : ¬ 1 <<< 53 < w.natAbs) :
    nearestSigned (w * unitsPerOne) = w * unitsPerOne := by
  refine Float64.nearestSigned_eq_self ?_
  rw [Int.natAbs_mul, Int.natAbs_natCast, unitsPerOne, ← Float64.shiftLeft_eq_mul]
  exact exists_shiftLeft_eq 1074 (Nat.le_of_not_lt h)

theorem Number.nearestSigned_units {n : Number} (h : ¬ n.IsLarge) :
    nearestSigned n.units = n.units := by
  cases n with
  | whole w => exact nearestSigned_mul_unitsPerOne fun hlarge => h ⟨w, rfl, hlarge⟩
  | float x => exact Float64.nearestSigned_signed x

theorem Literal.nearestSigned_units {t : Literal} {u : Int} (hu : t.units? = some u)
    (h : ¬ t.IsLarge) : nearestSigned u = u := by
  cases t with
  | integer k =>
      cases hu
      exact nearestSigned_mul_unitsPerOne fun hlarge => h ⟨k, rfl, hlarge⟩
  | float x =>
      cases x with
      | finite x =>
          cases hu
          exact Float64.nearestSigned_signed x
      | infinite negative => cases hu
  | string s => cases hu

theorem Collapses.isLarge {n : Number} {t : Literal} {u : Int} (hu : t.units? = some u)
    (h : Collapses n t) : n.IsLarge ∨ t.IsLarge := by
  by_contra hlarge
  obtain ⟨hn, ht⟩ := not_or.1 hlarge
  obtain ⟨hne, hsame, -⟩ := (collapses_iff hu).1 h
  rw [Number.nearestSigned_units hn, Literal.nearestSigned_units hu ht] at hsame
  exact hne hsame

/-- A comparison of a number with a finite threshold always has a result. It is the truth
about the exact values, for each sign, unless two different numbers have the same nearest
float; then it is what it would be for equal numbers. One of the two is then a whole
number beyond `2 ^ 53`. -/
theorem Test.check_compare_iff {n : Number} {t : Literal} {b : Rat} (hb : t.value? = some b) :
    ((∀ sign, (Test.compare sign t).check (.number n) = some (decide (sign.Relates n.value b))) ↔
        ¬ Collapses n t) ∧
      (Collapses n t → (n.IsLarge ∨ t.IsLarge) ∧
        ∀ sign, (Test.compare sign t).check (.number n) = some (decide (sign.Relates b b))) := by
  obtain ⟨u, hu, rfl⟩ := Option.map_eq_some_iff.1 (t.value?_eq.symm.trans hb)
  have hcollapsed (h : Collapses n t) (sign : Sign) : (Test.compare sign t).check (.number n) =
      some (decide (sign.Relates (ofUnits u) (ofUnits u))) := by
    rw [Test.check, Json.compare?_of_collapses h, ← sign.accepts_compare u u, Std.compare_self]
    rfl
  refine ⟨⟨fun hexact h => ?_, fun h sign => ?_⟩, fun h => ⟨h.isLarge hu, hcollapsed h⟩⟩
  case refine_1 =>
    -- Two numbers that pass for equal are not.
    have heq := (hexact .eq).symm.trans (hcollapsed h .eq)
    have hvalue : Sign.eq.Relates n.value (ofUnits u) :=
      of_decide_eq_true ((Option.some.inj heq).trans (decide_eq_true rfl))
    exact h.1 (hb.trans (congrArg some hvalue.symm))
  case refine_2 =>
    rw [Test.check, Json.compare?_of_not_collapses hu h, n.value_eq, ← sign.accepts_compare]
    rfl

theorem Test.check_compare_greatest :
    (Literal.integer Int64.maxValue).value? = some (Int64.maxValue.toInt : Rat) ∧
      ∀ sign, (Test.compare sign (.integer Int64.maxValue)).check
          (.number (.whole (.ofInt64 (Int64.maxValue - 1)))) =
        some (decide (sign.Relates ((Int64.maxValue - 1).toInt : Rat) Int64.maxValue.toInt)) := by
  have hvalue : (Literal.integer Int64.maxValue).value? = some (Int64.maxValue.toInt : Rat) := rfl
  refine ⟨hvalue, (Test.check_compare_iff hvalue).1.2 fun h => h.2.2 ?_⟩
  exact ⟨Int64.maxValue - 1, Int64.maxValue, rfl, rfl⟩

/-- The first number beyond the signed range passes for the last one in it. -/
theorem Test.beyondSigned_passes_for_greatest :
    (Test.compare .eq (.integer Int64.maxValue)).check (.number (.whole Condition.beyondSigned)) =
        some true ∧
      ¬ Sign.eq.Relates (Number.whole Condition.beyondSigned).value Int64.maxValue.toInt := by
  refine ⟨?_, ?_⟩
  · decide +kernel
  · decide +kernel

end Overlay
