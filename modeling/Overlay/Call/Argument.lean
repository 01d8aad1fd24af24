import Overlay.Instant
import Overlay.Name
import Overlay.Text.Quote

/-!
Arguments of calls and their types. A text is turned into an argument of a
type if it is written as one; an untyped argument is any text, to be read
later.
-/

namespace Overlay

inductive Argument
  | dataName (name : Text)
  | integer (n : Int64)
  | float (x : Float64)
  | string (s : Text)
  | time (s : Text)
  | untyped (t : Text)
  deriving DecidableEq

namespace Text

/-- The sign of a number, if it has one, and what follows. -/
def signed : Text → Bool × Text
  | '-' :: rest => (true, rest)
  | '+' :: rest => (false, rest)
  | rest => (false, rest)

/-- A whole number with an optional sign, within the range of 64 bits. -/
def integer? (t : Text) : Option Int64 :=
  let (negative, digits) := t.signed
  let n : Int := if negative then -(natural digits : Int) else natural digits
  if isDigits digits ∧ Int64.minValue.toInt ≤ n ∧ n ≤ Int64.maxValue.toInt then
    some (Int64.ofInt n)
  else none

/-- Digits, a point and digits, with an optional sign. -/
def float? (t : Text) : Option Float64 :=
  let (negative, digits) := t.signed
  let whole := digits.takeWhile isDigit
  match digits.dropWhile isDigit with
  | '.' :: decimals =>
    if isDigits whole ∧ isDigits decimals then
      some (.ofDecimal negative (natural (whole ++ decimals)) (-(decimals.length : Int)))
    else none
  | _ => none

/-- Puts a quote in place of every backslash with a quote. -/
def unescape : Text → Text
  | [] => []
  | '\\' :: '"' :: rest => '"' :: unescape rest
  | c :: rest => c :: unescape rest

/-- The string that a text denotes when it is one literal. -/
def unquote? (t : Text) : Option Text :=
  match t.quotes with
  | .ok [.inside literal] => some (unescape literal.inner)
  | _ => none

end Text

namespace ArgumentType

/-- The argument of a type that a text writes, if it writes one. -/
def convert? (type : ArgumentType) (t : Text) : Option Argument :=
  match type with
  | dataName => if t.isName then some (.dataName t) else none
  | integer => t.integer?.map .integer
  | float => t.float?.map .float
  | string => t.unquote?.map .string
  | time => do
    let s ← t.unquote?
    let _ ← Instant.ofText? s
    some (.time s)
  | untyped => some (.untyped t)

/-- The argument of the first of several types that a text writes. -/
def convertFirst? (types : List ArgumentType) (t : Text) : Option Argument :=
  types.findSome? (·.convert? t)

def number : List ArgumentType := [integer, float]

def literal : List ArgumentType := [integer, float, string]

end ArgumentType

namespace Argument

def text? : Argument → Option Text
  | dataName s | string s | time s => some s
  | _ => none

def literal? : Argument → Option Literal
  | integer n => some (.integer n)
  | float x => some (.float x)
  | string s | time s => some (.string s)
  | _ => none

def integer? : Argument → Option Int64
  | integer n => some n
  | _ => none

def untyped? : Argument → Option Text
  | untyped t => some t
  | _ => none

/-- A view of the argument at an index, counted from zero. -/
def nth {α : Type} (view : Argument → Option α) (args : List Argument) (index : Nat) :
    Except Fault α :=
  match args[index]? with
  | none => .error (.missingArgument (index + 1))
  | some a =>
    match view a with
    | none => .error (.unexpectedArgument (index + 1))
    | some x => .ok x

end Argument

/-- Reads a literal: a whole number, a float or a string. -/
def Literal.ofText (t : Text) : Except Fault Literal :=
  match (ArgumentType.convertFirst? ArgumentType.literal t).bind Argument.literal? with
  | some l => .ok l
  | none => .error (.invalidLiteral t)

end Overlay
