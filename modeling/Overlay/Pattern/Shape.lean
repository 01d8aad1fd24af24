import Overlay.Pattern.Expr

/-!
Patterns in the form in which they are measured. Concatenations and choices
hold no others of their kind, neighbouring characters of a concatenation are
one literal, a choice between characters or between sets is one set, and the
parts with which all branches of a choice begin stand before it.
-/

namespace Overlay.Pattern

inductive Shape
  | empty
  | literal (points : List Nat)
  | set (ranges : Ranges)
  | look (l : Look)
  | capture (s : Shape)
  | repeat (s : Shape) (least : Nat) (most : Option Nat) (greedy : Bool)
  | concat (parts : List Shape)
  | choice (branches : List Shape)

namespace Shape

/-- The shape of a set. A set of one character is a literal. -/
def ofRanges : Ranges → Shape
  | [(low, high)] => if low = high then literal [low] else set [(low, high)]
  | ranges => set ranges

/-- The character of a literal that is not longer. -/
def point? : Shape → Option Nat
  | literal [point] => some point
  | _ => none

def ranges? : Shape → Option Ranges
  | set ranges => some ranges
  | _ => none

def points? : Shape → Option (List Nat)
  | literal points => some points
  | _ => none

def parts? : Shape → Option (List Shape)
  | concat parts => some parts
  | _ => none

mutual

/-- Whether two shapes are the same. Two captures never are, since each has a
number of its own. -/
def isSame : Shape → Shape → Bool
  | empty, empty => true
  | literal points, literal points' => points == points'
  | set ranges, set ranges' => ranges == ranges'
  | look l, look l' => decide (l = l')
  | .repeat s least most greedy, .repeat s' least' most' greedy' =>
    s.isSame s' && least == least' && most == most' && greedy == greedy'
  | concat parts, concat parts' => areSame parts parts'
  | choice branches, choice branches' => areSame branches branches'
  | _, _ => false

def areSame : List Shape → List Shape → Bool
  | [], [] => true
  | s :: ss, s' :: ss' => s.isSame s' && areSame ss ss'
  | _, _ => false

end

/-! Concatenations. -/

/-- What a shape adds to a concatenation. -/
def inlined : Shape → List Shape
  | empty => []
  | concat parts => parts
  | s => [s]

def mergeLiterals : List Shape → List Shape
  | [] => []
  | s :: rest =>
    match s, mergeLiterals rest with
    | literal points, literal points' :: rest => literal (points ++ points') :: rest
    | s, rest => s :: rest

/-- The concatenation of shapes. -/
def join (shapes : List Shape) : Shape :=
  match mergeLiterals (shapes.flatMap inlined) with
  | [] => empty
  | [s] => s
  | parts => concat parts

/-! Choices. -/

/-- The branches that a shape adds to a choice. -/
def spread : Shape → List Shape
  | choice branches => branches
  | s => [s]

/-- A choice between branches with no beginning in common. -/
def gather (branches : List Shape) : Shape :=
  match branches.mapM point?, branches.mapM ranges? with
  | some points, _ => ofRanges (Ranges.normal (points.map fun point => (point, point)))
  | none, some sets => ofRanges (Ranges.normal sets.flatten)
  | none, none => choice branches

/-- What two lists of parts have in common at their beginning. -/
def commonFront : List Shape → List Shape → List Shape
  | s :: ss, s' :: ss' => if s.isSame s' then s :: commonFront ss ss' else []
  | _, _ => []

/-- The parts with which all branches begin, and the branches without them. -/
def liftFront (branches : List Shape) : List Shape × List Shape :=
  match branches.mapM parts? with
  | some (parts :: others) =>
    let front := others.foldl commonFront parts
    (front, (parts :: others).map fun parts => join (parts.drop front.length))
  | _ => ([], branches)

/-- The choice between shapes. Only concatenations have a beginning in common,
and what is left of them has none. -/
def oneOf (shapes : List Shape) : Shape :=
  match shapes with
  | [s] => s
  | _ =>
    match liftFront (shapes.flatMap spread) with
    | ([], branches) => gather branches
    | (front, branches) => join (front ++ [gather (branches.flatMap spread)])

end Shape

namespace Expr

/-- The shapes of the branches that an expression chooses from. -/
def branches : Expr → List Shape
  | empty => [.empty]
  | chars set => [.ofRanges set]
  | look l => [.look l]
  | seq a b => [.join [.oneOf a.branches, .oneOf b.branches]]
  | alt a b => .oneOf a.branches :: b.branches
  | group true e => [.capture (.oneOf e.branches)]
  | group false e => [.oneOf e.branches]
  | .repeat e least most greedy => [.repeat (.oneOf e.branches) least most greedy]

/-- The form in which an expression is measured. -/
def shape (e : Expr) : Shape := .oneOf e.branches

end Expr

end Overlay.Pattern
