import Overlay.Json.Basic

/-!
Rounding of whole numbers of units. The nearest number with 53 significant bits
grows with the number that is rounded, and it is that number when it has no more
bits. So rounding may make two numbers the same, but never turns their order round.
-/

namespace Overlay

section Quotient

variable {a b d n : Nat}

/-- When a quotient is rounded up. -/
theorem roundHalfEven_eq (a d : Nat) : roundHalfEven a d =
    a / d + if d < 2 * (a % d) ∨ d = 2 * (a % d) ∧ a / d % 2 = 1 then 1 else 0 := by
  simp only [roundHalfEven]
  generalize a / d = q
  generalize a % d = r
  by_cases hbelow : 2 * r < d
  · rw [if_pos hbelow, if_neg (by omega)]
    rfl
  rw [if_neg hbelow]
  by_cases habove : d < 2 * r
  · rw [if_pos habove, if_pos (.inl habove)]
  rw [if_neg habove]
  by_cases heven : q % 2 = 0
  · rw [if_pos heven, if_neg (by omega)]
    rfl
  · rw [if_neg heven, if_pos (by omega)]

theorem le_roundHalfEven (a d : Nat) : a / d ≤ roundHalfEven a d := by
  rw [roundHalfEven_eq]
  exact Nat.le_add_right _ _

/-- A quotient is not rounded beyond a whole number. -/
theorem roundHalfEven_le_of_le_mul (h : a ≤ n * d) : roundHalfEven a d ≤ n := by
  by_cases heq : a = n * d
  · subst heq
    by_cases hd : 0 < d
    · exact Nat.le_of_eq (roundHalfEven_mul n hd)
    · obtain rfl : d = 0 := by omega
      simp [roundHalfEven]
  · have hlt : a / d < n := Nat.div_lt_of_lt_mul (by rw [Nat.mul_comm]; omega)
    have hround := roundHalfEven_le a d
    omega

theorem le_roundHalfEven_of_mul_le (hd : 0 < d) (h : n * d ≤ a) : n ≤ roundHalfEven a d :=
  Nat.le_trans ((Nat.le_div_iff_mul_le hd).2 h) (le_roundHalfEven a d)

theorem roundHalfEven_mono (h : a ≤ b) : roundHalfEven a d ≤ roundHalfEven b d := by
  have hquotient : a / d ≤ b / d := Nat.div_le_div_right h
  by_cases hlt : a / d < b / d
  · have ha := roundHalfEven_le a d
    have hb := le_roundHalfEven b d
    omega
  · -- With the same quotient, the remainders are in order too.
    have heq : a / d = b / d := by omega
    have hrem : a % d ≤ b % d := by
      have ha := Nat.div_add_mod a d
      have hb := Nat.div_add_mod b d
      rw [heq] at ha
      omega
    rw [roundHalfEven_eq, roundHalfEven_eq, heq]
    split <;> split <;> omega

end Quotient

namespace Float64

/-- The number of units that is nearest to a number of units, at most 53 of its bits
being significant. -/
def nearest (n : Nat) : Nat :=
  roundHalfEven n (1 <<< (n.log2 - 52)) <<< (n.log2 - 52)

/-- Whether a number of units has at most 53 significant bits. -/
def IsPrecise (n : Nat) : Prop := ∃ m k, m < 1 <<< 53 ∧ n = m <<< k

theorem shiftLeft_eq_mul (n k : Nat) : n <<< k = n * 1 <<< k := by
  rw [Nat.shiftLeft_eq, Nat.one_shiftLeft]

theorem nearest_eq (n : Nat) :
    nearest n = roundHalfEven n (1 <<< (n.log2 - 52)) * 1 <<< (n.log2 - 52) :=
  shiftLeft_eq_mul _ _

theorem nearest_eq_self {n : Nat} (h : IsPrecise n) : nearest n = n := by
  obtain ⟨m, k, hm, rfl⟩ := h
  rw [nearest_eq]
  generalize hj : (m <<< k).log2 - 52 = j
  have hdvd : 2 ^ j ∣ m <<< k := by
    by_cases hzero : m <<< k = 0
    · rw [hzero]
      exact Nat.dvd_zero _
    · have hbits : (m <<< k).log2 < 53 + k := by
        rw [Nat.log2_lt hzero, Nat.shiftLeft_eq, Nat.pow_add]
        rw [Nat.one_shiftLeft] at hm
        exact Nat.mul_lt_mul_of_pos_right hm (Nat.two_pow_pos k)
      rw [Nat.shiftLeft_eq]
      exact Nat.dvd_mul_left_of_dvd (Nat.pow_dvd_pow 2 (by omega)) m
  obtain ⟨q, hq⟩ := hdvd
  rw [Nat.one_shiftLeft, hq, Nat.mul_comm (2 ^ j) q, roundHalfEven_mul q (Nat.two_pow_pos j)]

/-- Numbers are not rounded beyond the power of two above them. -/
theorem nearest_le_two_pow {n e : Nat} (h : n ≤ 1 <<< e) : nearest n ≤ 1 <<< e := by
  rw [nearest_eq]
  generalize hj : n.log2 - 52 = j
  simp only [Nat.one_shiftLeft] at h ⊢
  have hje : j ≤ e := by
    have hlog : n.log2 ≤ e := by
      by_cases hzero : n = 0
      · simp [hzero]
      · rw [← Nat.pow_le_pow_iff_right (a := 2) (by decide)]
        exact Nat.le_trans (Nat.log2_self_le hzero) h
    omega
  have hsplit : 2 ^ e = 2 ^ (e - j) * 2 ^ j := by rw [← Nat.pow_add, Nat.sub_add_cancel hje]
  rw [hsplit] at h ⊢
  exact Nat.mul_le_mul_right _ (roundHalfEven_le_of_le_mul h)

/-- Numbers are not rounded below the power of two that they begin with. -/
theorem two_pow_log2_le_nearest {n : Nat} (h : n ≠ 0) : 1 <<< n.log2 ≤ nearest n := by
  rw [nearest_eq]
  generalize hj : n.log2 - 52 = j
  simp only [Nat.one_shiftLeft]
  have hsplit : 2 ^ n.log2 = 2 ^ (n.log2 - j) * 2 ^ j := by
    rw [← Nat.pow_add, Nat.sub_add_cancel (by omega)]
  have hle := Nat.log2_self_le h
  rw [hsplit] at hle ⊢
  exact Nat.mul_le_mul_right _ (le_roundHalfEven_of_mul_le (Nat.two_pow_pos j) hle)

theorem nearest_mono {a b : Nat} (h : a ≤ b) : nearest a ≤ nearest b := by
  by_cases hzero : a = 0
  · subst hzero
    exact Nat.zero_le _
  have hlog : a.log2 ≤ b.log2 := by
    have := Nat.log2_self_le hzero
    rw [Nat.le_log2 (by omega)]
    omega
  by_cases hsame : a.log2 = b.log2
  · rw [nearest_eq, nearest_eq, hsame]
    exact Nat.mul_le_mul_right _ (roundHalfEven_mono h)
  · -- The power of two that the greater one begins with lies between them.
    calc nearest a ≤ 1 <<< b.log2 := by
          refine nearest_le_two_pow ?_
          rw [Nat.one_shiftLeft]
          refine Nat.le_of_lt ((Nat.log2_lt hzero).1 ?_)
          omega
      _ ≤ nearest b := two_pow_log2_le_nearest (by omega)

/-- The number of units with sign that is nearest to a number of units. -/
def nearestSigned (u : Int) : Int := if u < 0 then -(nearest u.natAbs : Int) else nearest u.natAbs

theorem nearestSigned_mono {a b : Int} (h : a ≤ b) : nearestSigned a ≤ nearestSigned b := by
  simp only [nearestSigned]
  split
  case isTrue ha =>
    split
    case isTrue hb =>
      have hle : nearest b.natAbs ≤ nearest a.natAbs := nearest_mono (by omega)
      omega
    case isFalse hb => omega
  case isFalse ha =>
    rw [if_neg (by omega)]
    have hle : nearest a.natAbs ≤ nearest b.natAbs := nearest_mono (by omega)
    omega

theorem nearestSigned_eq_self {u : Int} (h : IsPrecise u.natAbs) : nearestSigned u = u := by
  rw [nearestSigned, nearest_eq_self h]
  split <;> omega

theorem nearestSigned_signed (x : Finite64) : nearestSigned x.signed = x.signed := by
  refine nearestSigned_eq_self ?_
  have habs : x.signed.natAbs = x.units := by
    rw [Finite64.signed]
    split <;> simp
  rw [habs]
  exact x.precise

theorem round_one {num : Nat} (negative : Bool) (h : nearest num < capacity) :
    ∃ x : Finite64, round negative num 1 = .finite x ∧
      x.negative = negative ∧ x.units = nearest num := by
  rw [nearest] at h
  rw [round]
  simp only [Nat.div_one]
  rw [dif_pos h]
  exact ⟨_, rfl, rfl, rfl⟩

theorem nearest_shiftLeft_lt {n e k limit : Nat} (h : n ≤ 1 <<< e) (hlimit : e + k < limit) :
    nearest (n <<< k) < 1 <<< limit := by
  calc nearest (n <<< k) ≤ 1 <<< (e + k) := by
        refine nearest_le_two_pow ?_
        rw [Nat.shiftLeft_eq, Nat.one_shiftLeft, Nat.pow_add]
        rw [Nat.one_shiftLeft] at h
        exact Nat.mul_le_mul_right _ h
    _ < 1 <<< limit := by
        rw [Nat.one_shiftLeft, Nat.one_shiftLeft]
        exact Nat.pow_lt_pow_right (by decide) hlimit

/-- How many units the number one has. -/
def unitsPerOne : Nat := 1 <<< 1074

theorem unitsPerOne_pos : 0 < unitsPerOne := by
  have hpos (k : Nat) : 0 < 1 <<< k := by
    rw [Nat.one_shiftLeft]
    exact Nat.two_pow_pos k
  exact hpos 1074

/-- A whole number of 64 bits is far below the end of the finite range, and its float
is the nearest one. -/
theorem exists_ofInt (n : Whole) : ∃ x : Finite64, ofInt n.val = .finite x ∧
    x.signed = nearestSigned (n.val * unitsPerOne) := by
  have habs : n.val.natAbs ≤ 1 <<< 64 := by
    have hlow := n.low
    have hhigh := n.high
    have hmin : Int64.minValue.toInt = -(1 <<< 63 : Nat) := by decide
    have hsize : UInt64.size = 1 <<< 64 := by decide
    omega
  have hfits : nearest (n.val.natAbs <<< 1074) < capacity :=
    nearest_shiftLeft_lt habs (by decide)
  obtain ⟨x, hx, hnegative, hnearest⟩ := round_one (decide (n.val < 0)) hfits
  have hone : (0 : Int) < unitsPerOne := Int.natCast_pos.2 unitsPerOne_pos
  refine ⟨x, hx, ?_⟩
  rw [Finite64.signed, hnegative, hnearest, shiftLeft_eq_mul, nearestSigned, Int.natAbs_mul,
    Int.natAbs_natCast]
  by_cases hneg : n.val < 0
  · rw [if_pos (decide_eq_true hneg), if_pos (Int.mul_neg_of_neg_of_pos hneg hone)]
    rfl
  · have hnonneg : 0 ≤ n.val * unitsPerOne := Int.mul_nonneg (by omega) (by omega)
    rw [if_neg (by simpa using hneg), if_neg (by omega)]
    rfl

end Float64

end Overlay
