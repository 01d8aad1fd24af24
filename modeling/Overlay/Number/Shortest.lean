import Overlay.Number.Float64

/-!
The shortest decimal that reads back as a given binary number. The reals that
round to a number form an interval around it; the ends belong to it when the
significand is even. Of the decimals with one digit, two digits and so on, the
two neighbours of the number are tried, and the first number of digits with a
neighbour in the interval is taken. Of two such neighbours the nearer is
taken.
-/

namespace Overlay

/-- Which of two decimals at the same distance is taken. -/
inductive Tie
  | toEven
  | up
  deriving DecidableEq

/-- The value `digits * 10 ^ exponent`. -/
structure Decimal where
  digits : Nat
  exponent : Int
  deriving DecidableEq

namespace Decimal

/-- How many decimal digits a number has; none for zero. -/
def places (n : Nat) : Nat := if n = 0 then 0 else (toString n).length

/-- The number `e` with `10 ^ (e - 1) ≤ v < 10 ^ e`, for `v` units. Finite
numbers are at least `10 ^ -324`, so 400 decimal places show the first digit. -/
def magnitude (units : Nat) : Int :=
  places ((units * Nat.pow 10 400) >>> 1074) - 400

/-- The interval of reals that round to a number of units, in quarter units. -/
structure Interval where
  low : Nat
  high : Nat
  closed : Bool

def interval (units : Nat) : Interval :=
  let k := units.log2 - 52
  let below := if units = 1 <<< (52 + k) ∧ 0 < k then 1 <<< k else 1 <<< (k + 1)
  { low := 4 * units - below
    high := 4 * units + 1 <<< (k + 1)
    closed := (units >>> k) % 2 = 0 }

/-- Whether `num / den` quarter units lie in the interval. -/
def Interval.holds (i : Interval) (num den : Nat) : Bool :=
  if i.closed then i.low * den ≤ num ∧ num ≤ i.high * den
  else i.low * den < num ∧ num < i.high * den

/-- The neighbour of a number of units on the grid of multiples of
`10 ^ exponent` that reads back, if there is one. -/
def onGrid (tie : Tie) (units : Nat) (exponent : Int) : Option Decimal :=
  let up := Nat.pow 10 exponent.toNat
  let down := Nat.pow 10 (-exponent).toNat
  let den := up <<< 1074
  let lower := units * down / den
  let i := interval units
  let quarters (c : Nat) := (c * up) <<< 1076
  let lowHit := i.holds (quarters lower) down
  let highHit := i.holds (quarters (lower + 1)) down
  let twice := 2 * (units * down % den)
  let low : Decimal := ⟨lower, exponent⟩
  let high : Decimal := ⟨lower + 1, exponent⟩
  match lowHit, highHit with
  | false, false => none
  | true, false => some low
  | false, true => some high
  | true, true =>
    if twice < den then some low
    else if den < twice then some high
    else match tie with
      | .up => some high
      | .toEven => if lower % 2 = 0 then some low else some high

/-- The shortest decimal that reads back as a number of units. Seventeen
digits are always enough. -/
def shortest (tie : Tie) (units : Nat) : Decimal :=
  let e := magnitude units
  ((List.range 17).findSome? fun (n : Nat) => onGrid tie units (e - (n + 1 : Nat))).getD ⟨0, 0⟩

end Decimal

end Overlay
