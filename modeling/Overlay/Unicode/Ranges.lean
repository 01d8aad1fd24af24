import Overlay.Text.Digits

/-!
Sets of code points as lists of closed ranges. In a normal list the ranges are
in increasing order and neither overlap nor touch, so that two normal lists
with the same members are equal. The set operations return normal lists.
-/

namespace Overlay

abbrev Ranges := List (Nat × Nat)

namespace Ranges

/-- Membership in a list of increasing ranges. -/
def contains : Ranges → Nat → Bool
  | [], _ => false
  | (lo, hi) :: rest, n => if n < lo then false else n ≤ hi || contains rest n

/-- Joins ranges that overlap or touch; the ranges are in order of their low
ends, and `lo` to `hi` precedes them. -/
def joinFrom (lo hi : Nat) : Ranges → Ranges
  | [] => [(lo, hi)]
  | (a, b) :: rest =>
    if a ≤ hi + 1 then joinFrom lo (max hi b) rest else (lo, hi) :: joinFrom a b rest

def joinTouching : Ranges → Ranges
  | [] => []
  | (lo, hi) :: rest => joinFrom lo hi rest

/-- The normal list of the members of any list of ranges. -/
def normal (rs : Ranges) : Ranges :=
  joinTouching ((rs.filter fun r => r.1 ≤ r.2).mergeSort fun r s => r.1 ≤ s.1)

def union (a b : Ranges) : Ranges :=
  joinTouching (a.merge b fun r s => r.1 ≤ s.1)

/-- Scalar values: all code points but the surrogates. -/
def scalars : Ranges := [(0, 0xD7FF), (0xE000, 0x10FFFF)]

/-- What is left of one range after the members of a normal list are removed. -/
def cut (lo hi : Nat) : Ranges → Ranges
  | [] => if lo ≤ hi then [(lo, hi)] else []
  | (a, b) :: rest =>
    if hi < a then (if lo ≤ hi then [(lo, hi)] else [])
    else if b < lo then cut lo hi rest
    else (if lo < a then [(lo, a - 1)] else []) ++ cut (b + 1) hi rest

def diff (a b : Ranges) : Ranges := a.flatMap fun r => cut r.1 r.2 b

/-- The scalar values that are not members. -/
def complement (a : Ranges) : Ranges := diff scalars a

def inter (a b : Ranges) : Ranges := diff a (diff a b)

/-- The members of either list but not of both. -/
def symmDiff (a b : Ranges) : Ranges := union (diff a b) (diff b a)

/-- Whether all members are below `bound`. -/
def below (bound : Nat) (a : Ranges) : Bool := a.all fun r => r.2 < bound

/-- Ranges of a table row: hexadecimal numbers, `-` between the ends of a
range, a space after each entry. The accumulators are the ranges read so far,
the low end of an open range and the number under way. -/
def ofHexFrom (acc : Ranges) (low : Option Nat) (n : Nat) : List Char → Ranges
  | [] => ((low.getD n, n) :: acc).reverse
  | '-' :: cs => ofHexFrom acc (some n) 0 cs
  | ' ' :: cs => ofHexFrom ((low.getD n, n) :: acc) none 0 cs
  | c :: cs => ofHexFrom acc low (16 * n + (hexDigit? c).getD 0) cs

def ofHex (row : String) : Ranges :=
  if row.isEmpty then [] else ofHexFrom [] none 0 row.toList

def ofRows (rows : List String) : Ranges := rows.flatMap ofHex

end Ranges

end Overlay
