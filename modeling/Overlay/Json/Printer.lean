import Overlay.Json.Basic
import Overlay.Number.Style

/-!
Text of a JSON value, on one line or indented by two spaces a level. Fields
are written in the order of the list. Only quotes, backslashes and control
characters are escaped.
-/

namespace Overlay.Json

/-- Floats are positional from `0.00001` up to sixteen places before the
point, and a positive exponent has a sign. -/
def floatStyle : FloatStyle :=
  { tie := .toEven, leastPlain := -5, plainBelow := 16, plusSign := true }

def hexLower (n : Nat) : Char := (Nat.toDigits 16 n).headD '0'

def escape (c : Char) : Text :=
  if c = '"' then ['\\', '"']
  else if c = '\\' then ['\\', '\\']
  else if c = '\n' then ['\\', 'n']
  else if c = '\r' then ['\\', 'r']
  else if c = '\t' then ['\\', 't']
  else if c.toNat = 0x08 then ['\\', 'b']
  else if c.toNat = 0x0C then ['\\', 'f']
  else if c.toNat < 0x20 then
    ['\\', 'u', '0', '0', hexLower (c.toNat / 16), hexLower (c.toNat % 16)]
  else [c]

def quoted (s : Text) : Text := '"' :: s.flatMap escape ++ ['"']

def numberText : Number → Text
  | .whole n => FloatStyle.intText n.val
  | .float x => floatStyle.text x

mutual

/-- The value on one line, without spaces. -/
def compact : Json → Text
  | .null => "null".toList
  | .bool b => (toString b).toList
  | .number n => numberText n
  | .string s => quoted s
  | .array items => '[' :: compactItems items ++ [']']
  | .object fields => '{' :: compactFields fields ++ ['}']

def compactItems : List Json → Text
  | [] => []
  | [v] => compact v
  | v :: vs => compact v ++ ',' :: compactItems vs

def compactFields : List (Text × Json) → Text
  | [] => []
  | [(k, v)] => quoted k ++ ':' :: compact v
  | (k, v) :: fs => quoted k ++ ':' :: compact v ++ ',' :: compactFields fs

end

/-- A line break followed by the indentation of a level. -/
def newline (level : Nat) : Text := '\n' :: List.replicate (2 * level) ' '

mutual

/-- The value with a line for each item and each field; `level` is the level
of the line on which it starts. -/
def pretty (level : Nat) : Json → Text
  | .array (v :: vs) => '[' :: prettyItems (level + 1) (v :: vs) ++ newline level ++ [']']
  | .object (f :: fs) => '{' :: prettyFields (level + 1) (f :: fs) ++ newline level ++ ['}']
  | .null => compact .null
  | .bool b => compact (.bool b)
  | .number n => compact (.number n)
  | .string s => compact (.string s)
  | .array [] => ['[', ']']
  | .object [] => ['{', '}']

def prettyItems (level : Nat) : List Json → Text
  | [] => []
  | [v] => newline level ++ pretty level v
  | v :: vs => newline level ++ pretty level v ++ ',' :: prettyItems level vs

def prettyFields (level : Nat) : List (Text × Json) → Text
  | [] => []
  | [(k, v)] => newline level ++ quoted k ++ ':' :: ' ' :: pretty level v
  | (k, v) :: fs =>
    newline level ++ quoted k ++ ':' :: ' ' :: pretty level v ++ ',' :: prettyFields level fs

end

end Overlay.Json
