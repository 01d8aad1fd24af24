import Overlay.Pattern.Mode

/-!
Classes in square brackets: characters, ranges, escapes, ASCII classes, nested
classes, and the operators for intersection, difference and symmetric
difference, which group to the left. Every class has a depth, the number of
nested parts on its deepest path.
-/

namespace Overlay.Pattern

inductive SetOp
  | inter
  | diff
  | symmDiff

def SetOp.apply (op : SetOp) (a b : Ranges) : Ranges :=
  match op with
  | inter => a.inter b
  | diff => a.diff b
  | symmDiff => a.symmDiff b

/-- A set under way: the union of the items so far, how many there are, and
the depth of the deepest. -/
structure Items where
  set : Ranges
  count : Nat
  depth : Nat

namespace Items

def none : Items := ⟨[], 0, 0⟩

def add (i : Items) (set : Ranges) (depth : Nat) : Items :=
  ⟨i.set.union set, i.count + 1, max i.depth depth⟩

/-- A union of several items is one level deeper than its items. -/
def totalDepth (i : Items) : Nat := if i.count ≤ 1 then i.depth else i.depth + 1

end Items

/-- The left side of an operator whose right side is under way. -/
abbrev Pending := Option (SetOp × Ranges × Nat)

/-- The set and the depth of what was read, with the operator before it
applied. -/
def close (m : Mode) (pending : Pending) (items : Items) : Ranges × Nat :=
  match pending with
  | none => (items.set, items.totalDepth)
  | some (op, left, depth) =>
    (op.apply (m.fold left) (m.fold items.set), max depth items.totalDepth + 1)

/-- A character of a class; without Unicode it has to be ASCII. -/
def classChar? (m : Mode) (a : Atom) : Option Char := do
  let c ← a.char? m
  if m.unicode || c.toNat < 128 then some c else none

/-- The next character of a class as it is, or an escape. -/
def readClassAtom (m : Mode) : Text → Option (Atom × Text)
  | [] => none
  | '\\' :: rest => readEscape m rest
  | c :: rest => some (.char c, rest)

/-- What follows the next character when ignored space is passed over. In a
comment the first character after its sign is taken. -/
def peek (m : Mode) (inComment : Bool) : Text → Option Char
  | [] => none
  | c :: rest =>
    if !m.extended then some c
    else if isBlank c then peek m inComment rest
    else if !inComment ∧ c = '#' then peek m true rest
    else some c

/-- One item: a range, a character or an escape for a set. -/
def readClassItem (m : Mode) (t : Text) : Option (Ranges × Text) := do
  let (first, rest) ← readClassAtom m t
  match m.skip rest with
  | [] => none
  | c :: after =>
    let next := peek m false after
    if c ≠ '-' ∨ next = some ']' ∨ next = some '-' then
      match first with
      | .set s => some (s, c :: after)
      | .look _ => none
      | atom => some (single (← classChar? m atom), c :: after)
    else
      let rest := m.skip after
      if rest.isEmpty then none
      let (last, rest) ← readClassAtom m rest
      let low ← classChar? m first
      let high ← classChar? m last
      if low ≤ high then some (span low high, rest) else none

/-- An ASCII class such as `[:alpha:]`, after its first bracket. -/
def readAsciiClass (m : Mode) (t : Text) : Option (Option Ranges × Text) := do
  let rest ← Text.dropPrefix? [':'] t
  let (negated, rest) := match rest with
    | '^' :: rest => (true, rest)
    | rest => (false, rest)
  let name := rest.takeWhile (· != ':')
  let rest ← Text.dropPrefix? [':', ']'] (rest.dropWhile (· != ':'))
  let set ← asciiClass? (String.ofList name)
  some (m.negate? negated (m.fold set), rest)

/-- Hyphens at the beginning of a class. -/
def readHyphens (m : Mode) (fuel : Nat) (items : Items) (t : Text) : Items × Text :=
  match fuel, t with
  | fuel + 1, '-' :: rest => readHyphens m fuel (items.add (single '-') 0) (m.skip rest)
  | _, _ => (items, t)

/-- The beginning of a class after its bracket: whether it is negated, and the
characters that are literal only there. -/
def openClass (m : Mode) (t : Text) : Bool × Items × Text :=
  let (negated, t) := match m.skip t with
    | '^' :: rest => (true, m.skip rest)
    | t => (false, t)
  let (items, t) := readHyphens m t.length .none t
  match items.count, t with
  | 0, ']' :: rest => (negated, items.add (single ']') 0, m.skip rest)
  | _, _ => (negated, items, t)

/-- The rest of a class, with what was read of it. -/
def readClassFrom (m : Mode) (fuel : Nat) (negated : Bool) (pending : Pending) (items : Items)
    (t : Text) : Option (Ranges × Nat × Text) :=
  match fuel with
  | 0 => none
  | fuel + 1 =>
    let operator (op : SetOp) (rest : Text) :=
      let (set, depth) := close m pending items
      readClassFrom m fuel negated (some (op, set, depth)) .none rest
    match m.skip t with
    | [] => none
    | '[' :: rest =>
      match readAsciiClass m rest with
      | some (set, rest) => do readClassFrom m fuel negated pending (items.add (← set) 0) rest
      | none => do
        let (negatedInner, first, rest) := openClass m rest
        let (set, depth, rest) ← readClassFrom m fuel negatedInner none first rest
        readClassFrom m fuel negated pending (items.add set depth) rest
    | ']' :: rest => do
      let (set, depth) := close m pending items
      some (← m.negate? negated (m.fold set), depth + 1, rest)
    | '&' :: '&' :: rest => operator .inter rest
    | '-' :: '-' :: rest => operator .diff rest
    | '~' :: '~' :: rest => operator .symmDiff rest
    | t => do
      let (set, rest) ← readClassItem m t
      readClassFrom m fuel negated pending (items.add set 0) rest

/-- A class after its bracket: its set, its depth and the rest. -/
def readClass (m : Mode) (t : Text) : Option (Ranges × Nat × Text) :=
  let (negated, items, rest) := openClass m t
  readClassFrom m (t.length + 1) negated none items rest

end Overlay.Pattern
