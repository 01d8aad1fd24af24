import Overlay.Text.Digits

/-!
Points in time, written as `YYYYMMDDTHHMMSS` with years `0000` to `9999` of the
Gregorian calendar. A leap second, `60`, is allowed in every minute and lies
between second 59 and the next minute.
-/

namespace Overlay

structure Instant where
  year : Nat
  month : Nat
  day : Nat
  hour : Nat
  minute : Nat
  second : Nat
  deriving DecidableEq

namespace Instant

def isLeapYear (year : Nat) : Bool :=
  year % 4 == 0 && (year % 100 != 0 || year % 400 == 0)

/-- How many days a month has. -/
def daysIn (year month : Nat) : Nat :=
  match month with
  | 4 | 6 | 9 | 11 => 30
  | 2 => if isLeapYear year then 29 else 28
  | _ => 31

/-- Whether the fields name a point in time. -/
def isValid (t : Instant) : Bool :=
  t.year ≤ 9999 && 1 ≤ t.month && t.month ≤ 12 && 1 ≤ t.day && t.day ≤ daysIn t.year t.month &&
    t.hour ≤ 23 && t.minute ≤ 59 && t.second ≤ 60

/-- The number of exactly `width` digits with which a text begins, and the
rest. -/
def number? (width : Nat) (t : Text) : Option (Nat × Text) :=
  let digits := t.take width
  if digits.length = width ∧ digits.all isDigit then some (Text.natural digits, t.drop width)
  else none

def ofText? (t : Text) : Option Instant := do
  let (year, t) ← number? 4 t
  let (month, t) ← number? 2 t
  let (day, t) ← number? 2 t
  let t ← Text.dropPrefix? ['T'] t
  let (hour, t) ← number? 2 t
  let (minute, t) ← number? 2 t
  let (second, t) ← number? 2 t
  let instant : Instant := ⟨year, month, day, hour, minute, second⟩
  if t.isEmpty ∧ instant.isValid then some instant else none

/-- A number with `width` digits, with zeros in front. -/
def padded (width n : Nat) : Text :=
  let digits := Nat.toDigits 10 n
  List.replicate (width - digits.length) '0' ++ digits

def text (t : Instant) : Text :=
  padded 4 t.year ++ padded 2 t.month ++ padded 2 t.day ++ 'T' ::
    (padded 2 t.hour ++ padded 2 t.minute ++ padded 2 t.second)

/-- Seconds are compared within minutes, minutes within hours, and so on. -/
def fields (t : Instant) : List Nat := [t.year, t.month, t.day, t.hour, t.minute, t.second]

/-- Whether an instant comes after another. -/
def isAfter (a b : Instant) : Bool := b.fields < a.fields

end Instant

end Overlay
