import Overlay.Pattern.BreakClass
import Overlay.Unicode.Case
import Overlay.Unicode.Word

/-!
Character sets that patterns can name: classes written with a letter after a
backslash, ASCII classes, Unicode properties, and the closure of a set under
case folding.
-/

namespace Overlay.Pattern

def single (c : Char) : Ranges := [(c.toNat, c.toNat)]

/-- The range between two characters. -/
def span (low high : Char) : Ranges := [(low.toNat, high.toNat)]

/-- The set that a name alone stands for: a property, a category or a
script. -/
def named? (name : Text) : Option Ranges :=
  let n := looseName name
  let property := if n == "cf" || n == "sc" || n == "lc" then none else property? n
  property.orElse fun _ => (category? n).orElse fun _ => script? n

/-- The set of the characters with a value of a property. -/
def valued? (property value : Text) : Option Ranges :=
  let v := looseName value
  match looseName property with
  | "gc" | "generalcategory" => category? v
  | "sc" | "script" => script? v
  | "scx" | "scriptextensions" => scriptExtension? v
  | "age" => age? v
  | "gcb" | "graphemeclusterbreak" => graphemeClass? v
  | "wb" | "wordbreak" => wordClass? v
  | "sb" | "sentencebreak" => sentenceClass? v
  | _ => none

def digits : Ranges := categories ["nd"]

def spaces : Ranges := property "whitespace"

def asciiWord : Ranges := [(0x30, 0x39), (0x41, 0x5A), (0x5F, 0x5F), (0x61, 0x7A)]

def asciiSpaces : Ranges := [(0x09, 0x0D), (0x20, 0x20)]

def asciiDigits : Ranges := [(0x30, 0x39)]

/-- The set of a class letter. -/
def letterClass (unicode : Bool) (c : Char) : Ranges :=
  match c, unicode with
  | 'd', true => digits
  | 's', true => spaces
  | 'w', true => asciiWord ++ Unicode.wordRanges
  | 'd', false => asciiDigits
  | 's', false => asciiSpaces
  | _, _ => asciiWord

/-- The set of an ASCII class, by its name. -/
def asciiClass? (name : String) : Option Ranges :=
  match name with
  | "alnum" => some [(0x30, 0x39), (0x41, 0x5A), (0x61, 0x7A)]
  | "alpha" => some [(0x41, 0x5A), (0x61, 0x7A)]
  | "ascii" => some [(0x00, 0x7F)]
  | "blank" => some [(0x09, 0x09), (0x20, 0x20)]
  | "cntrl" => some [(0x00, 0x1F), (0x7F, 0x7F)]
  | "digit" => some asciiDigits
  | "graph" => some [(0x21, 0x7E)]
  | "lower" => some [(0x61, 0x7A)]
  | "print" => some [(0x20, 0x7E)]
  | "punct" => some [(0x21, 0x2F), (0x3A, 0x40), (0x5B, 0x60), (0x7B, 0x7E)]
  | "space" => some asciiSpaces
  | "upper" => some [(0x41, 0x5A)]
  | "word" => some asciiWord
  | "xdigit" => some [(0x30, 0x39), (0x41, 0x46), (0x61, 0x66)]
  | _ => none

/-- Groups of characters that differ only in case. -/
def caseGroups : List Ranges :=
  Unicode.caseRows.flatMap fun row =>
    (row.splitOn " ").map fun group =>
      (group.splitOn "-").flatMap fun member => Ranges.ofHex member

/-- The set with all case variants of its members. -/
def foldCase (set : Ranges) : Ranges :=
  set.union (Ranges.normal (caseGroups.flatMap fun group =>
    if group.any fun r => set.contains r.1 then group else []))

/-- The set with the ASCII case variants of its members. -/
def foldAscii (set : Ranges) : Ranges :=
  let shifted (low high : Nat) (f : Nat → Nat) :=
    (set.inter [(low, high)]).map fun r => (f r.1, f r.2)
  (set.union (shifted 0x41 0x5A (· + 32))).union (shifted 0x61 0x7A (· - 32))

end Overlay.Pattern
