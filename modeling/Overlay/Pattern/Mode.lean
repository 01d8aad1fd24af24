import Overlay.Pattern.CharSet
import Overlay.Pattern.Expr

/-!
Modes of a pattern and the parts that do not contain other parts: ignored
space, flags, numbers, escapes and names. A reader takes the rest of the
pattern and gives what it read and what is left, or nothing if the pattern is
wrong.
-/

namespace Overlay.Pattern

/-- What the flags of a pattern have set. -/
structure Mode where
  ignoreCase : Bool := false
  multiLine : Bool := false
  dotAll : Bool := false
  crlf : Bool := false
  unicode : Bool := true
  extended : Bool := false
  swapGreed : Bool := false

namespace Mode

/-- Sets a flag. -/
def set? (m : Mode) (flag : Char) (on : Bool) : Option Mode :=
  match flag with
  | 'i' => some { m with ignoreCase := on }
  | 'm' => some { m with multiLine := on }
  | 's' => some { m with dotAll := on }
  | 'R' => some { m with crlf := on }
  | 'u' => some { m with unicode := on }
  | 'x' => some { m with extended := on }
  | 'U' => some { m with swapGreed := on }
  | _ => none

/-- The rest of a comment in an extended pattern, and of what is ignored after
it. -/
def skipFrom (inComment : Bool) : Text → Text
  | [] => []
  | c :: rest =>
    if inComment then skipFrom (c != '\n') rest
    else if isBlank c then skipFrom false rest
    else if c = '#' then skipFrom true rest
    else c :: rest

/-- The text without the space and comments that the mode ignores. -/
def skip (m : Mode) (t : Text) : Text := if m.extended then skipFrom false t else t

/-- The set of a character, with its case variants if case is ignored. -/
def charSet (m : Mode) (c : Char) : Ranges :=
  if m.ignoreCase then
    if m.unicode then foldCase (single c)
    else if c.toNat < 128 then foldAscii (single c) else single c
  else single c

def fold (m : Mode) (set : Ranges) : Ranges :=
  if m.ignoreCase then (if m.unicode then foldCase set else foldAscii set) else set

/-- A set or its complement. Without Unicode a complement would hold parts of
characters, which is refused. -/
def negate? (m : Mode) (negated : Bool) (set : Ranges) : Option Ranges :=
  if !negated then some set else if m.unicode then some set.complement else none

/-- The set of the point. -/
def dot? (m : Mode) : Option Ranges :=
  if !m.unicode then none
  else if m.dotAll then some Ranges.scalars
  else if m.crlf then some (Ranges.scalars.diff [(0x0A, 0x0A), (0x0D, 0x0D)])
  else some (Ranges.scalars.diff [(0x0A, 0x0A)])

def lineStart (m : Mode) : Look :=
  if !m.multiLine then .textStart else if m.crlf then .lineStartCrlf else .lineStart

def lineEnd (m : Mode) : Look :=
  if !m.multiLine then .textEnd else if m.crlf then .lineEndCrlf else .lineEnd

end Mode

/-- What an escape stands for. A byte is a character that was written as two
hexadecimal digits. -/
inductive Atom
  | char (c : Char)
  | byte (c : Char)
  | set (s : Ranges)
  | look (l : Look)

/-- The character of an atom that is one, as far as the mode allows it. Outside
of Unicode mode a byte beyond ASCII is no character. -/
def Atom.char? (m : Mode) : Atom → Option Char
  | char c => some c
  | byte c => if m.unicode || c.toNat < 128 then some c else none
  | _ => none

/-- A number written in decimal; blanks around it are ignored, and so is what
the mode ignores between its digits. -/
def readDigits (m : Mode) (fuel : Nat) (digits : Text) (t : Text) : Text × Text :=
  match fuel, t with
  | fuel + 1, c :: rest =>
    if isDigit c then readDigits m fuel (c :: digits) (m.skip rest) else (digits.reverse, t)
  | _, _ => (digits.reverse, t)

/-- A count of a repetition: at most `2 ^ 32 - 1`. -/
def readCount (m : Mode) (t : Text) : Option Nat × Text :=
  let (digits, rest) := readDigits m (t.length + 1) [] t.dropBlank
  let n := Text.natural digits
  (if digits.isEmpty ∨ UInt32.size ≤ n then none else some n, m.skip rest.dropBlank)

/-- The character with a number, if there is one. -/
def scalar? (n : Nat) : Option Char :=
  if n < 0xD800 ∨ (0xE000 ≤ n ∧ n < 0x110000) then some (Char.ofNat n) else none

def hexNumber? (digits : Text) : Option Nat :=
  digits.foldlM (fun n c => (hexDigit? c).map (16 * n + ·)) 0

/-- A fixed number of hexadecimal digits. -/
def readHexDigits (m : Mode) : (count : Nat) → (read : Text) → Text → Option (Text × Text)
  | 0, read, t => some (read.reverse, t)
  | _ + 1, _, [] => none
  | n + 1, read, c :: rest =>
    if (hexDigit? c).isSome then readHexDigits m n (c :: read) (m.skip rest) else none

/-- What stands before a closing brace, without what the mode ignores. -/
def readBraced (m : Mode) (fuel : Nat) (read : Text) (t : Text) : Option (Text × Text) :=
  match fuel, m.skip t with
  | fuel + 1, c :: rest =>
    if c = '\x7d' then some (read.reverse, rest) else readBraced m fuel (c :: read) rest
  | _, _ => none

/-- An escape by number, after the letter that announces it. -/
def readHex (m : Mode) (letter : Char) (t : Text) : Option (Atom × Text) := do
  match m.skip t with
  | '\x7b' :: rest =>
    let (digits, rest) ← readBraced m (rest.length + 1) [] rest
    if digits.isEmpty then none
    let c ← scalar? (← hexNumber? digits)
    some (.char c, m.skip rest)
  | t =>
    let count := if letter = 'x' then 2 else if letter = 'u' then 4 else 8
    let (digits, rest) ← readHexDigits m count [] t
    let c ← scalar? (← hexNumber? digits)
    some (if letter = 'x' then .byte c else .char c, rest)

/-- What precedes the first occurrence of a mark, and what follows it. -/
def splitAt? (mark : Text) : Text → Option (Text × Text)
  | [] => none
  | c :: rest =>
    match Text.dropPrefix? mark (c :: rest) with
    | some after => some ([], after)
    | none => (splitAt? mark rest).map fun (before, after) => (c :: before, after)

/-- The set of a property query in braces, and whether the query asks for the
characters that are not in it. -/
def query? (query : Text) : Option (Ranges × Bool) :=
  match splitAt? ['!', '='] query with
  | some (name, value) => (valued? name value).map (·, true)
  | none =>
    match (splitAt? [':'] query).orElse fun _ => splitAt? ['='] query with
    | some (name, value) => (valued? name value).map (·, false)
    | none => (named? query).map (·, false)

/-- A property class, after its letter. Case is ignored in the set that is
named, before its complement is taken. -/
def readProperty (m : Mode) (negated : Bool) (t : Text) : Option (Atom × Text) := do
  if !m.unicode then none
  let ((set, other), rest) ← match m.skip t with
    | '\x7b' :: rest => do
      let (name, rest) ← readBraced m (rest.length + 1) [] rest
      some (← query? name, rest)
    | c :: rest => if c = '\\' then none else do some ((← named? [c], false), m.skip rest)
    | [] => none
  some (.set (← m.negate? (negated != other) (m.fold set)), rest)

/-- Characters with a meaning of their own in patterns. -/
def isMeta (c : Char) : Bool := "\\.+*?()|[]\x7b\x7d^$#&-~".toList.contains c

/-- Characters that a backslash leaves as they are. -/
def isEscapable (c : Char) : Bool :=
  isMeta c || (c.toNat < 128 && !c.isAlphanum && c != '<' && c != '>')

def isEdgeChar (c : Char) : Bool := c.isAlpha || c == '-'

/-- The name of a word edge, up to the closing brace. -/
def readEdgeName (m : Mode) (fuel : Nat) (read : Text) (t : Text) : Option (Text × Text) :=
  match fuel, t with
  | fuel + 1, c :: rest =>
    if isEdgeChar c then readEdgeName m fuel (c :: read) (m.skip rest)
    else if c = '\x7d' then some (read.reverse, rest) else none
  | _, _ => none

/-- The position condition of a word edge; after it a name in braces may say
which. If what is in braces cannot be a name, the braces are a count. -/
def readBoundary (m : Mode) (t : Text) : Option (Atom × Text) := do
  let edge (e : WordEdge) : Atom := .look (.word e (!m.unicode))
  match t with
  | '\x7b' :: rest =>
    match m.skip rest with
    | [] => none
    | c :: inside =>
      if !isEdgeChar c then some (edge .boundary, t)
      else
        let (name, rest) ← readEdgeName m (inside.length + 2) [] (c :: inside)
        match String.ofList name with
        | "start" => some (edge .start, rest)
        | "end" => some (edge .finish, rest)
        | "start-half" => some (edge .startHalf, rest)
        | "end-half" => some (edge .finishHalf, rest)
        | _ => none
  | _ => some (edge .boundary, t)

/-- An escape, after its backslash. -/
def readEscape (m : Mode) : Text → Option (Atom × Text)
  | [] => none
  | c :: rest =>
    if c = 'x' ∨ c = 'u' ∨ c = 'U' then readHex m c rest
    else if c = 'p' ∨ c = 'P' then readProperty m (c == 'P') rest
    else if c = 'd' ∨ c = 's' ∨ c = 'w' then some (.set (letterClass m.unicode c), rest)
    else if c = 'D' ∨ c = 'S' ∨ c = 'W' then
      (m.negate? true (letterClass m.unicode c.toLower)).map fun s => (.set s, rest)
    else if isEscapable c then some (.char c, rest)
    else match c with
      | 'a' => some (.char (Char.ofNat 0x07), rest)
      | 'f' => some (.char (Char.ofNat 0x0C), rest)
      | 't' => some (.char '\t', rest)
      | 'n' => some (.char '\n', rest)
      | 'r' => some (.char '\r', rest)
      | 'v' => some (.char (Char.ofNat 0x0B), rest)
      | 'A' => some (.look .textStart, rest)
      | 'z' => some (.look .textEnd, rest)
      | 'b' => readBoundary m rest
      | 'B' => some (.look (.word .noBoundary (!m.unicode)), rest)
      | '<' => some (.look (.word .start (!m.unicode)), rest)
      | '>' => some (.look (.word .finish (!m.unicode)), rest)
      | _ => none

/-- Flags up to the colon or bracket that ends them. `seen` holds the flags
and the sign that came before, `dangling` whether the sign came last. -/
def readFlags (m : Mode) (seen : Text) (on dangling : Bool) : Text → Option (Mode × Text × Text)
  | [] => none
  | c :: rest =>
    if c = ':' ∨ c = ')' then if dangling then none else some (m, seen, c :: rest)
    else if seen.contains c then none
    else if c = '-' then readFlags m (c :: seen) false true rest
    else do readFlags (← m.set? c on) (c :: seen) on false rest

def isAlphabetic (c : Char) : Bool :=
  (property "alphabetic").contains c.toNat

/-- Whether a character may stand in the name of a group. -/
def isGroupNameChar (first : Bool) (c : Char) : Bool :=
  c == '_' || isAlphabetic c ||
    (!first && (c == '.' || c == '[' || c == ']' ||
      (categories ["nd", "nl", "no"]).contains c.toNat))

/-- The name of a group, up to the bracket that closes it. -/
def readGroupName (read : Text) : Text → Option (Text × Text)
  | [] => none
  | c :: rest =>
    if c = '>' then if read.isEmpty then none else some (read.reverse, rest)
    else if isGroupNameChar read.isEmpty c then readGroupName (c :: read) rest
    else none

end Overlay.Pattern
