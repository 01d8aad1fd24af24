import Overlay.Number.Shortest
import Overlay.Text.Basic

/-!
Written forms of floating-point numbers. They share the shortest digits and
differ in which of two equally near decimals is taken, where positional
notation ends, and whether a positive exponent has a sign.
-/

namespace Overlay

/-- A way to write a float. Numbers whose leading digit stands for
`10 ^ leastPlain` or more and for less than `10 ^ plainBelow` are written
positionally, always with a decimal point. -/
structure FloatStyle where
  tie : Tie
  leastPlain : Int
  plainBelow : Int
  plusSign : Bool

namespace FloatStyle

def wholeText (n : Nat) : Text := (toString n).toList

def intText (n : Int) : Text := (toString n).toList

/-- Digits without the zeros at their end, and how many these were. -/
def dropZeros (digits : Text) : Text × Nat :=
  let kept := (digits.reverse.dropWhile (· == '0')).reverse
  (kept, digits.length - kept.length)

/-- Positional notation of digits times `10 ^ exponent`. -/
def plain (digits : Text) (exponent : Int) : Text :=
  let places := (-exponent).toNat
  if 0 ≤ exponent then digits ++ List.replicate exponent.toNat '0' ++ ['.', '0']
  else if places < digits.length then
    digits.take (digits.length - places) ++ '.' :: digits.drop (digits.length - places)
  else '0' :: '.' :: List.replicate (places - digits.length) '0' ++ digits

/-- Scientific notation: one digit before the point, if there is a point. -/
def scientific (style : FloatStyle) (digits : Text) (leading : Int) : Text :=
  let fraction := if digits.length ≤ 1 then [] else '.' :: digits.drop 1
  let sign : Text := if leading < 0 ∨ !style.plusSign then [] else ['+']
  digits.take 1 ++ fraction ++ 'e' :: sign ++ intText leading

/-- The written form of a magnitude in units. -/
def magnitudeText (style : FloatStyle) (units : Nat) : Text :=
  if units = 0 then ['0', '.', '0']
  else
    let d := Decimal.shortest style.tie units
    let (digits, zeros) := dropZeros (wholeText d.digits)
    let exponent := d.exponent + zeros
    let leading := exponent + digits.length - 1
    if style.leastPlain ≤ leading ∧ leading < style.plainBelow then plain digits exponent
    else style.scientific digits leading

def text (style : FloatStyle) (x : Finite64) : Text :=
  (if x.negative then ['-'] else []) ++ style.magnitudeText x.units

end FloatStyle

end Overlay
