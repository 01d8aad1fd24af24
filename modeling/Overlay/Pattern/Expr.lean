import Overlay.Text.Word
import Overlay.Unicode.Ranges

/-!
Patterns as expressions over character sets, and searching a text for them.
The positions of a text are the gaps between its characters, the two ends
included. An expression carries a set of positions to the set of positions
where its matches end, and a text contains a match when something is reached
from the set of all positions. A repetition without bound grows the set until
it stays the same, which happens after at most as many steps as there are
positions.
-/

namespace Overlay.Pattern

/-- Which side of a word a position must be at. -/
inductive WordEdge
  | boundary
  | noBoundary
  | start
  | finish
  | startHalf
  | finishHalf
  deriving DecidableEq

/-- Conditions on a position. -/
inductive Look
  | textStart
  | textEnd
  | lineStart
  | lineEnd
  | lineStartCrlf
  | lineEndCrlf
  | word (edge : WordEdge) (ascii : Bool)
  deriving DecidableEq

/-- Whether a group captures and whether a repetition is greedy makes no
difference to where matches end. -/
inductive Expr
  | empty
  | chars (set : Ranges)
  | look (l : Look)
  | seq (a b : Expr)
  | alt (a b : Expr)
  | group (captures : Bool) (e : Expr)
  | repeat (e : Expr) (least : Nat) (most : Option Nat) (greedy : Bool)
  deriving DecidableEq

def isAsciiWord (c : Char) : Bool := c.toNat < 128 && isWord c

def WordEdge.holds (edge : WordEdge) (before after : Bool) : Bool :=
  match edge with
  | boundary => before != after
  | noBoundary => before == after
  | start => !before && after
  | finish => before && !after
  | startHalf => !before
  | finishHalf => !after

/-- Whether a position between two characters meets a condition. At the ends
of the text there is no character on one side. -/
def Look.holds (l : Look) (before after : Option Char) : Bool :=
  match l with
  | textStart => before.isNone
  | textEnd => after.isNone
  | lineStart => before.isNone || before == some '\n'
  | lineEnd => after.isNone || after == some '\n'
  | lineStartCrlf =>
    before.isNone || before == some '\n' || (before == some '\r' && after != some '\n')
  | lineEndCrlf =>
    after.isNone || after == some '\r' || (after == some '\n' && before != some '\r')
  | word edge ascii =>
    let inWord := if ascii then isAsciiWord else isWord
    edge.holds (before.any inWord) (after.any inWord)

/-- The characters on both sides of each position. -/
def sidesFrom (before : Option Char) : Text → List (Option Char × Option Char)
  | [] => [(before, none)]
  | c :: rest => (before, some c) :: sidesFrom (some c) rest

/-- A set of positions: whether each position belongs to it, in order. -/
abbrev Positions := List Bool

namespace Positions

def union (p q : Positions) : Positions := p.zipWith (· || ·) q

/-- The positions after a character of a set that follows a given position. -/
def advance (set : Ranges) (t : Text) (p : Positions) : Positions :=
  false :: p.zipWith (fun here c => here && set.contains c.toNat) t

def keep (l : Look) (t : Text) (p : Positions) : Positions :=
  p.zipWith (fun here s => here && l.holds s.1 s.2) (sidesFrom none t)

/-- Applies a step a number of times; from no position nothing is reached. -/
def times (step : Positions → Positions) : Nat → Positions → Positions
  | 0, p => p
  | n + 1, p => if p.any id then times step n (step p) else p

/-- What is reached by at most `n` steps. -/
def within (step : Positions → Positions) : Nat → Positions → Positions
  | 0, p => p
  | n + 1, p =>
    let next := p.union (step p)
    if next = p then p else within step n next

end Positions

namespace Expr

/-- Where the matches end that start at given positions. -/
def reach (t : Text) : Expr → Positions → Positions
  | empty, p => p
  | chars set, p => p.advance set t
  | look l, p => p.keep l t
  | seq a b, p => b.reach t (a.reach t p)
  | alt a b, p => (a.reach t p).union (b.reach t p)
  | group _ e, p => e.reach t p
  | .repeat e least most _, p =>
    let more := match most with
      | some n => min (n - least) p.length
      | none => p.length
    Positions.within (e.reach t) more (Positions.times (e.reach t) least p)

/-- Whether a match lies somewhere in a text. -/
def occursIn (e : Expr) (t : Text) : Bool :=
  (e.reach t (List.replicate (t.length + 1) true)).any id

/-- Whether an expression matches at most the empty text. -/
def isEmptyOnly : Expr → Bool
  | empty | look _ => true
  | chars _ => false
  | seq a b | alt a b => a.isEmptyOnly && b.isEmptyOnly
  | group _ e => e.isEmptyOnly
  | .repeat e _ most _ => e.isEmptyOnly || most == some 0

/-- A repetition in its simplest form: what is empty is repeated at most once,
and a single repetition is none. -/
def repeated (e : Expr) (least : Nat) (most : Option Nat) (greedy : Bool) : Expr :=
  let (least, most) :=
    if e.isEmptyOnly then (min least 1, some (min (most.getD 1) 1)) else (least, most)
  if least = 0 ∧ most = some 0 then empty
  else if least = 1 ∧ most = some 1 then e
  else .repeat e least most greedy

end Expr

end Overlay.Pattern
