/-!
Binary floating-point numbers of 64 bits, as exact values. Every finite one is
a whole number of units, a unit being `2 ^ -1074`, with at most 53 significant
bits. Comparing finite numbers is comparing whole numbers, and rounding to the
nearest one is one division.
-/

namespace Overlay

/-- The first number of units that is beyond the finite range. -/
def Float64.capacity : Nat := 1 <<< 2098

/-- A finite number: a sign and a number of units with at most 53 significant
bits. Zero has two signs. -/
structure Finite64 where
  negative : Bool
  units : Nat
  precise : ∃ m k, m < 1 <<< 53 ∧ units = m <<< k
  bounded : units < Float64.capacity
  deriving DecidableEq

inductive Float64
  | finite (x : Finite64)
  | infinite (negative : Bool)
  deriving DecidableEq

/-- The quotient rounded to the nearest whole number, a half to the even one. -/
def roundHalfEven (a b : Nat) : Nat :=
  let q := a / b
  let twice := 2 * (a % b)
  if twice < b then q else if b < twice then q + 1 else if q % 2 = 0 then q else q + 1

theorem roundHalfEven_le (a b : Nat) : roundHalfEven a b ≤ a / b + 1 := by
  simp only [roundHalfEven]
  split
  · omega
  · split
    · omega
    · split <;> omega

theorem roundHalfEven_mul (a : Nat) {b : Nat} (h : 0 < b) : roundHalfEven (a * b) b = a := by
  simp only [roundHalfEven, Nat.mul_mod_left, Nat.mul_div_cancel a h]
  simp [h]

/-- A number of at most `2 ^ 53` units with zeros after it has 53 significant
bits. -/
theorem exists_shiftLeft_eq {m : Nat} (k : Nat) (h : m ≤ 1 <<< 53) :
    ∃ n j, n < 1 <<< 53 ∧ m <<< k = n <<< j := by
  by_cases hm : m = 1 <<< 53
  · subst hm
    refine ⟨1 <<< 52, k + 1, by decide, ?_⟩
    rw [← Nat.shiftLeft_add, ← Nat.shiftLeft_add, Nat.add_comm k 1, ← Nat.add_assoc]
  · exact ⟨m, k, Nat.lt_of_le_of_ne h hm, rfl⟩

/-- The first 53 bits of a number are less than `2 ^ 53`. -/
theorem shiftRight_log2_lt (q : Nat) : q >>> (q.log2 - 52) < 1 <<< 53 := by
  rw [Nat.shiftRight_eq_div_pow, Nat.one_shiftLeft,
    Nat.div_lt_iff_lt_mul (Nat.two_pow_pos _), ← Nat.pow_add]
  by_cases h : q = 0
  · subst h
    exact Nat.two_pow_pos _
  · exact (Nat.log2_lt h).1 (by omega)

namespace Float64

/-- The nearest number to `num / den` units, a half going to the even one. -/
def round (negative : Bool) (num den : Nat) : Float64 :=
  let q := num / den
  let k := q.log2 - 52
  let m := roundHalfEven num (den <<< k)
  if h : m <<< k < capacity then
    .finite ⟨negative, m <<< k, exists_shiftLeft_eq k (by
      have hm : m ≤ num / (den <<< k) + 1 := roundHalfEven_le num (den <<< k)
      have hq : num / (den <<< k) < 1 <<< 53 := by
        rw [Nat.shiftLeft_eq, ← Nat.div_div_eq_div_mul, ← Nat.shiftRight_eq_div_pow]
        exact shiftRight_log2_lt q
      omega), h⟩
  else .infinite negative

/-- The nearest number to a whole number. -/
def ofInt (n : Int) : Float64 := round (n < 0) (n.natAbs <<< 1074) 1

/-- The nearest number to `digits * 10 ^ exponent`. -/
def ofDecimal (negative : Bool) (digits : Nat) (exponent : Int) : Float64 :=
  if 0 ≤ exponent then round negative ((digits * Nat.pow 10 exponent.toNat) <<< 1074) 1
  else round negative (digits <<< 1074) (Nat.pow 10 (-exponent).toNat)

end Float64

namespace Finite64

/-- The number of units with its sign. The two zeros have the same. -/
def signed (x : Finite64) : Int := if x.negative then -(x.units : Int) else x.units

end Finite64

namespace Float64

/-- The order of the values: the two zeros are equal and the infinities are
the ends. -/
def compare : Float64 → Float64 → Ordering
  | .finite a, .finite b => Ord.compare a.signed b.signed
  | .infinite m, .infinite n => if m = n then .eq else if m then .lt else .gt
  | .infinite m, .finite _ => if m then .lt else .gt
  | .finite _, .infinite n => if n then .gt else .lt

def lt (a b : Float64) : Bool := a.compare b == .lt

def le (a b : Float64) : Bool := a.compare b != .gt

def zero : Float64 := ofInt 0

/-- Whether the value is greater than zero. -/
def isPositive (x : Float64) : Bool := zero.lt x

end Float64

end Overlay
