import Overlay.Json.Basic
import Overlay.Keyed
import Overlay.Text.Digits

/-!
Reading JSON text. A number without fraction and exponent that fits into 64
bits is whole; every other number, and `-0`, is the nearest float, and one that
is too large is refused. The fields of an object are put into key order, and
of several with one key the last counts.
-/

namespace Overlay.Json

def isSpace (c : Char) : Bool := c == ' ' || c == '\n' || c == '\r' || c == '\t'

def skipSpace (t : Text) : Text := t.dropWhile isSpace

/-- The value of four hexadecimal digits, and the rest. -/
def hexFour? : Text → Option (Nat × Text)
  | a :: b :: c :: d :: rest => do
    let a ← hexDigit? a
    let b ← hexDigit? b
    let c ← hexDigit? c
    let d ← hexDigit? d
    some (((a * 16 + b) * 16 + c) * 16 + d, rest)
  | _ => none

/-- The character of one escape, after its backslash, and the rest. A
character beyond the first plane is written as two escapes. -/
def escaped? : Text → Option (Char × Text)
  | 'b' :: rest => some (Char.ofNat 0x08, rest)
  | 'f' :: rest => some (Char.ofNat 0x0C, rest)
  | 'n' :: rest => some ('\n', rest)
  | 'r' :: rest => some ('\r', rest)
  | 't' :: rest => some ('\t', rest)
  | 'u' :: rest => do
    let (high, rest) ← hexFour? rest
    if high < 0xD800 ∨ 0xE000 ≤ high then some (Char.ofNat high, rest)
    else
      match rest with
      | '\\' :: 'u' :: rest =>
        let (low, rest) ← hexFour? rest
        if high < 0xDC00 ∧ 0xDC00 ≤ low ∧ low < 0xE000 then
          some (Char.ofNat (0x10000 + (high - 0xD800) * 0x400 + (low - 0xDC00)), rest)
        else none
      | _ => none
  | c :: rest => if c = '"' ∨ c = '\\' ∨ c = '/' then some (c, rest) else none
  | [] => none

/-- The rest of a string, up to its closing quote; `read` is what precedes,
reversed. -/
def stringFrom (fuel : Nat) (read : Text) (t : Text) : Option (Text × Text) :=
  match fuel, t with
  | 0, _ | _, [] => none
  | fuel + 1, c :: rest =>
    if c = '"' then some (read.reverse, rest)
    else if c = '\\' then do
      let (d, rest) ← escaped? rest
      stringFrom fuel (d :: read) rest
    else if c.toNat < 0x20 then none
    else stringFrom fuel (c :: read) rest

/-- Digits after a point, if there is one; a point needs a digit after it. -/
def fraction? : Text → Option (Option Text × Text)
  | '.' :: rest =>
    let digits := rest.takeWhile isDigit
    if digits.isEmpty then none else some (some digits, rest.dropWhile isDigit)
  | rest => some (none, rest)

/-- The exponent, if there is one. -/
def exponent? : Text → Option (Option Int × Text)
  | c :: rest =>
    if c = 'e' ∨ c = 'E' then
      let (negative, rest) := match rest with
        | '-' :: rest => (true, rest)
        | '+' :: rest => (false, rest)
        | rest => (false, rest)
      let digits := rest.takeWhile isDigit
      let n : Int := Text.natural digits
      if digits.isEmpty then none
      else some (some (if negative then -n else n), rest.dropWhile isDigit)
    else some (none, c :: rest)
  | [] => some (none, [])

/-- The nearest finite float to `digits * 10 ^ exponent`. Exponents far out of
range are decided without computing the power. -/
def floatOf? (negative : Bool) (digits : Nat) (exponent : Int) : Option Finite64 :=
  let value :=
    if digits = 0 then Float64.ofDecimal negative 0 0
    else if 400 < exponent then .infinite negative
    else if exponent + ((toString digits).length : Int) < -400 then
      Float64.ofDecimal negative 0 0
    else Float64.ofDecimal negative digits exponent
  match value with
  | .finite x => some x
  | .infinite _ => none

/-- A number, after its sign. -/
def numberFrom (negative : Bool) (t : Text) : Option (Json × Text) := do
  let digits := t.takeWhile isDigit
  let rest := t.dropWhile isDigit
  if digits.isEmpty ∨ (digits.head? = some '0' ∧ digits.length ≠ 1) then none
  let (fraction, rest) ← fraction? rest
  let (exponent, rest) ← exponent? rest
  let whole : Int := if negative then -(Text.natural digits : Int) else Text.natural digits
  let asFloat : Option (Json × Text) := do
    let decimals := fraction.getD []
    let x ← floatOf? negative (Text.natural (digits ++ decimals))
      (exponent.getD 0 - decimals.length)
    some (.number (.float x), rest)
  match fraction, exponent, Whole.ofInt? whole with
  | none, none, some n =>
    if negative ∧ whole = 0 then asFloat else some (.number (.whole n), rest)
  | _, _, _ => asFloat

mutual

/-- One value, from its first character on. -/
def valueFrom : (fuel : Nat) → Text → Option (Json × Text)
  | 0, _ => none
  | fuel + 1, t =>
    match t with
    | '"' :: rest => do
      let (s, rest) ← stringFrom (rest.length + 1) [] rest
      some (.string s, rest)
    | '[' :: rest =>
      match skipSpace rest with
      | ']' :: rest => some (.array [], rest)
      | rest => do
        let (items, rest) ← itemsFrom fuel rest
        some (.array items, rest)
    | '{' :: rest =>
      match skipSpace rest with
      | '}' :: rest => some (.object [], rest)
      | rest => do
        let (fields, rest) ← fieldsFrom fuel rest
        some (.object (Keyed.ofList fields).entries, rest)
    | 'n' :: 'u' :: 'l' :: 'l' :: rest => some (.null, rest)
    | 't' :: 'r' :: 'u' :: 'e' :: rest => some (.bool true, rest)
    | 'f' :: 'a' :: 'l' :: 's' :: 'e' :: rest => some (.bool false, rest)
    | '-' :: rest => numberFrom true rest
    | _ => numberFrom false t

/-- The items of an array from the first on, with the closing bracket. -/
def itemsFrom : (fuel : Nat) → Text → Option (List Json × Text)
  | 0, _ => none
  | fuel + 1, t => do
    let (v, rest) ← valueFrom fuel (skipSpace t)
    match skipSpace rest with
    | ',' :: rest =>
      let (vs, rest) ← itemsFrom fuel rest
      some (v :: vs, rest)
    | ']' :: rest => some ([v], rest)
    | _ => none

/-- The fields of an object from the first on, with the closing brace. -/
def fieldsFrom : (fuel : Nat) → Text → Option (List (Text × Json) × Text)
  | 0, _ => none
  | fuel + 1, t =>
    match skipSpace t with
    | '"' :: rest => do
      let (key, rest) ← stringFrom (rest.length + 1) [] rest
      match skipSpace rest with
      | ':' :: rest =>
        let (v, rest) ← valueFrom fuel (skipSpace rest)
        match skipSpace rest with
        | ',' :: rest =>
          let (fs, rest) ← fieldsFrom fuel rest
          some ((key, v) :: fs, rest)
        | '}' :: rest => some ([(key, v)], rest)
        | _ => none
      | _ => none
    | _ => none

end

/-- The value that a text writes, if it writes one. -/
def ofText? (t : Text) : Option Json := do
  let (v, rest) ← valueFrom (t.length + 1) (skipSpace t)
  if (skipSpace rest).isEmpty then some v else none

end Overlay.Json
