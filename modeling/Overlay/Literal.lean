import Overlay.Json.Basic
import Overlay.Number.Style
import Overlay.Unicode.Invisible

/-!
Literals of a description: whole numbers of 64 bits with sign, floats and
strings. Each has a value in the intermediate code, and a written form for
messages that shows its type: a float always has a point or an exponent, and
a string stands in quotes.
-/

namespace Overlay

inductive Literal
  | integer (n : Int64)
  | float (x : Float64)
  | string (s : Text)
  deriving DecidableEq

namespace Literal

/-- The value of a number as a float; whole numbers are rounded. -/
def asFloat? : Literal → Option Float64
  | integer n => some (.ofInt n.toInt)
  | float x => some x
  | string _ => none

def sameType : Literal → Literal → Bool
  | integer _, integer _ | float _, float _ | string _, string _ => true
  | _, _ => false

def isNumber : Literal → Bool
  | string _ => false
  | _ => true

/-- The value in the intermediate code. -/
def toJson : Literal → Json
  | integer n => .ofInt64 n
  | float x => .ofFloat x
  | string s => .string s

/-- The literal that a value stands for. A whole number beyond the signed
range becomes the nearest float. -/
def ofJson? : Json → Option Literal
  | .number (.whole n) =>
    some (match n.toInt64? with
      | some k => integer k
      | none => float (.ofInt n.val))
  | .number (.float x) => some (float (.finite x))
  | .string s => some (string s)
  | _ => none

/-- Floats in messages are positional from `0.0001` up to sixteen places
before the point. -/
def floatStyle : FloatStyle :=
  { tie := .up, leastPlain := -4, plainBelow := 16, plusSign := false }

def floatText : Float64 → Text
  | .finite x => floatStyle.text x
  | .infinite negative => (if negative then "-inf" else "inf").toList

/-- A character of a quoted string in a message. -/
def showChar (c : Char) : Text :=
  if c = '"' then ['\\', '"']
  else if c = '\\' then ['\\', '\\']
  else if c = '\n' then ['\\', 'n']
  else if c = '\r' then ['\\', 'r']
  else if c = '\t' then ['\\', 't']
  else if c.toNat = 0 then ['\\', '0']
  else if c.toNat < 0x20 ∨ (0x7F ≤ c.toNat ∧ Unicode.invisibleRanges.contains c.toNat) then
    ['\\', 'u', '\x7b'] ++ Nat.toDigits 16 c.toNat ++ ['\x7d']
  else [c]

def quotedText (s : Text) : Text := '"' :: s.flatMap showChar ++ ['"']

/-- The written form for messages. -/
def text : Literal → Text
  | integer n => FloatStyle.intText n.toInt
  | float x => floatText x
  | string s => quotedText s

end Literal

end Overlay
