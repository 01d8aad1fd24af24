import Overlay.Pattern.ClassReader
import Overlay.Pattern.Weight

/-!
Reading a pattern. Concatenation binds stronger than alternation, repetition
stronger than both. Flags in brackets of their own hold to the end of the
group in which they stand, across its alternatives. There is no look-around
and there are no references to groups. Patterns that nest deeper than 250
levels or weigh too much are refused.
-/

namespace Overlay.Pattern

/-- A part of a pattern with its depth: the number of nested parts on its
deepest path. -/
structure Part where
  expr : Expr
  depth : Nat

/-- A member of a concatenation. Flags match nothing and cannot be
repeated. -/
inductive Member
  | flags
  | part (p : Part)

def Member.toPart : Member → Part
  | flags => ⟨.empty, 0⟩
  | part p => p

/-- Parts in reverse order as one. Several parts are one level deeper than the
deepest of them. -/
def Part.chain (combine : Expr → Expr → Expr) : List Part → Part
  | [] => ⟨.empty, 0⟩
  | [p] => p
  | p :: ps =>
    let whole := ps.foldl
      (fun (acc q : Part) => Part.mk (combine q.expr acc.expr) (max acc.depth q.depth)) p
    ⟨whole.expr, whole.depth + 1⟩

/-- The concatenation of members in reverse order. -/
def concatenation (members : List Member) : Part := .chain .seq (members.map Member.toPart)

/-- The alternation of branches in reverse order. -/
def alternation (branches : List Part) : Part := .chain .alt branches

def Member.repeat? (least : Nat) (most : Option Nat) (greedy : Bool) : Member → Option Member
  | flags => none
  | part p => some (part ⟨p.expr.repeated least most greedy, p.depth + 1⟩)

/-- Whether a repetition is greedy, by the question mark that may follow it. -/
def readGreed (m : Mode) : Text → Bool × Text
  | '?' :: rest => (m.swapGreed, rest)
  | rest => (!m.swapGreed, rest)

/-- The bounds of a counted repetition, after its brace. -/
def readBounds (m : Mode) (t : Text) : Option ((Nat × Option Nat) × Text) := do
  let (least, rest) := readCount m (m.skip t)
  let least ← least
  let (bounds, rest) ← match rest with
    | ',' :: rest =>
      match m.skip rest with
      | '\x7d' :: rest => some ((least, none), '\x7d' :: rest)
      | rest => do
        let (most, rest) := readCount m rest
        let most ← most
        if least ≤ most then some ((least, some most), rest) else none
    | rest => some ((least, some least), rest)
  let rest ← Text.dropPrefix? ['\x7d'] rest
  some (bounds, m.skip rest)

/-- A part that is neither a group nor a class. -/
def readPrimitive (m : Mode) : Text → Option (Expr × Text)
  | [] => none
  | '\\' :: rest => do
    let (atom, rest) ← readEscape m rest
    match atom with
    | .set s => some (.chars s, rest)
    | .look l => some (.look l, rest)
    | atom => some (.chars (m.charSet (← atom.char? m)), rest)
  | '.' :: rest => do some (.chars (← m.dot?), rest)
  | '^' :: rest => some (.look m.lineStart, rest)
  | '$' :: rest => some (.look m.lineEnd, rest)
  | c :: rest => some (.chars (m.charSet c), rest)

def isLookaround (t : Text) : Bool :=
  ["?=", "?!", "?<=", "?<!"].any fun p => p.toList.isPrefixOf t

/-- What begins after an opening bracket. -/
inductive Opening
  | flags (m : Mode)
  | group (m : Mode) (captures : Bool)

/-- The beginning of a group, and the names of groups so far. -/
def readOpening (m : Mode) (names : List Text) (t : Text) :
    Option (Opening × List Text × Text) := do
  let t := m.skip t
  if isLookaround t then none
  match (Text.dropPrefix? "?P<".toList t).orElse fun _ => Text.dropPrefix? "?<".toList t with
  | some rest =>
    let (name, rest) ← readGroupName [] rest
    if names.contains name then none else some (.group m true, name :: names, rest)
  | none =>
    match t with
    | '?' :: rest =>
      match ← readFlags m [] true false rest with
      | (inner, seen, ')' :: rest) =>
        if seen.isEmpty then none else some (.flags inner, names, rest)
      | (inner, _, _ :: rest) => some (.group inner false, names, rest)
      | (_, _, []) => none
    | rest => some (.group m true, names, rest)

/-- The rest of a group, or of the whole pattern when `nested` is false, with
the branches and the members of the current branch that were read, both in
reverse order. -/
def readFrom (fuel : Nat) (m : Mode) (names : List Text) (nested : Bool)
    (branches : List Part) (members : List Member) (t : Text) :
    Option (Part × List Text × Text) :=
  match fuel with
  | 0 => none
  | fuel + 1 =>
    let proceed (member : Member) (rest : Text) :=
      readFrom fuel m names nested branches (member :: members) rest
    let repeated (least : Nat) (most : Option Nat) (rest : Text) := do
      let (greedy, rest) := readGreed m rest
      match members with
      | last :: before =>
        readFrom fuel m names nested branches ((← last.repeat? least most greedy) :: before) rest
      | [] => none
    let done := alternation (concatenation members :: branches)
    match m.skip t with
    | [] => if nested then none else some (done, names, [])
    | ')' :: rest => if nested then some (done, names, rest) else none
    | '|' :: rest => readFrom fuel m names nested (concatenation members :: branches) [] rest
    | '(' :: rest => do
      match ← readOpening m names rest with
      | (.flags inner, names, rest) =>
        readFrom fuel inner names nested branches (.flags :: members) rest
      | (.group inner captures, names, rest) =>
        let (p, names, rest) ← readFrom fuel inner names true [] [] rest
        let member := .part ⟨.group captures p.expr, p.depth + 1⟩
        readFrom fuel m names nested branches (member :: members) rest
    | '[' :: rest => do
      let (set, depth, rest) ← readClass m rest
      proceed (.part ⟨.chars set, depth⟩) rest
    | '?' :: rest => repeated 0 (some 1) rest
    | '*' :: rest => repeated 0 none rest
    | '+' :: rest => repeated 1 none rest
    | '\x7b' :: rest => do
      let ((least, most), rest) ← readBounds m rest
      repeated least most rest
    | t => do
      let (e, rest) ← readPrimitive m t
      proceed (.part ⟨e, 0⟩) rest

def depthLimit : Nat := 250

/-- The expression that a pattern stands for, if it is a pattern. -/
def Expr.ofText? (t : Text) : Option Expr := do
  let (p, _, _) ← readFrom (t.length + 1) {} [] false [] [] t
  if p.depth ≤ depthLimit ∧ p.expr.shape.isAffordable then some p.expr else none

end Overlay.Pattern

namespace Overlay

open Pattern in
/-- A pattern together with its source text, which determines it. -/
structure Pattern where
  source : Text
  expr : Expr
  isRead : Expr.ofText? source = some expr

namespace Pattern

/-- The pattern with a source text, if that is a pattern. -/
def ofText? (t : Text) : Option Pattern :=
  match h : Expr.ofText? t with
  | some e => some ⟨t, e, h⟩
  | none => none

/-- Whether a match lies somewhere in a text. -/
def occursIn (p : Pattern) (t : Text) : Bool := p.expr.occursIn t

@[ext] theorem ext {p q : Pattern} (h : p.source = q.source) : p = q := by
  cases p with
  | mk source expr isRead =>
    cases q with
    | mk source' expr' isRead' =>
      cases h
      have : expr = expr' := Option.some.inj (isRead.symm.trans isRead')
      cases this
      rfl

instance : DecidableEq Pattern := fun p q =>
  if h : p.source = q.source then isTrue (ext h) else isFalse fun e => h (e ▸ rfl)

theorem ofText?_source (p : Pattern) : ofText? p.source = some p := by
  unfold ofText?
  split
  · exact congrArg some (ext rfl)
  · next h =>
    rw [p.isRead] at h
    cases h

theorem source_of_ofText? {t : Text} {p : Pattern} (h : ofText? t = some p) : p.source = t := by
  unfold ofText? at h
  split at h
  · cases h
    rfl
  · cases h

end Pattern

end Overlay
