/-!
Line ranges. Lines are numbered from one, and both ends belong to a range.
-/

namespace Overlay

structure Span where
  first : Nat
  last : Nat
  ordered : first ≤ last
  deriving DecidableEq

namespace Span

/-- The range from `first` to `last`, or the line `first` alone if `last`
comes before it. -/
def ofEnds (first last : Nat) : Span := ⟨first, max first last, Nat.le_max_left _ _⟩

def line (n : Nat) : Span := ⟨n, n, Nat.le_refl n⟩

/-- The range of `count` lines from `first` on; it has at least one line. -/
def ofCount (first count : Nat) : Span := ⟨first, first + (count - 1), Nat.le_add_right _ _⟩

def isLine (s : Span) : Bool := s.first == s.last

def text (s : Span) : String :=
  if s.isLine then toString s.first else toString s.first ++ "-" ++ toString s.last

end Span

end Overlay
