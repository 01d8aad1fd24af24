import Overlay.Text.Basic

/-!
Decimal and hexadecimal digits. Only ASCII digits count.
-/

namespace Overlay

/-- Whether a character is a decimal digit. -/
def isDigit (c : Char) : Bool := c.isDigit

def digitValue (c : Char) : Nat := c.toNat - '0'.toNat

/-- The value of a hexadecimal digit. -/
def hexDigit? (c : Char) : Option Nat :=
  if '0' ≤ c ∧ c ≤ '9' then some (c.toNat - '0'.toNat)
  else if 'a' ≤ c ∧ c ≤ 'f' then some (c.toNat - 'a'.toNat + 10)
  else if 'A' ≤ c ∧ c ≤ 'F' then some (c.toNat - 'A'.toNat + 10)
  else none

namespace Text

/-- The number that a list of decimal digits stands for. -/
def natural (digits : Text) : Nat := digits.foldl (fun n c => 10 * n + digitValue c) 0

/-- Whether a text is made of decimal digits, and of at least one. -/
def isDigits (t : Text) : Bool := !t.isEmpty && t.all isDigit

end Text

end Overlay
