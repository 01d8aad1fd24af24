import Overlay.Call.Arguments
import Overlay.Condition.Basic

/-!
Written conditions. Parts between `||` are alternatives, and of one part
without a `||` the parts between `&&` must all hold; round brackets that
enclose a whole part are dropped. What is left is a leaf: the state of an
event, a comparison, a call of `like` or `range`, or `not` and a leaf. The
forms of a leaf are tried in this order. All texts are trimmed.
-/

namespace Overlay

namespace Sign

/-- What is compared, if a text begins with the sign. -/
def operand? (s : Sign) (t : Text) : Option Text :=
  (Text.dropPrefix? s.label t).bind Text.restOfLine?

/-- The first sign with which a text begins and that leaves an operand. -/
def leading? (t : Text) : Option (Sign × Text) :=
  all.findSome? fun s => (s.operand? t).map fun operand => (s, operand)

end Sign

namespace Leaf

/-- The test that an event is on, or that it is off. -/
def ofEventState? (t : Text) : Option Leaf := do
  let (name, rest) ← t.leadingName?
  let state ← Text.dropPrefix? ['.'] rest
  if state = "on".toList ∨ state = "off".toList then
    some ⟨name, .compare .eq (.string state)⟩
  else none

/-- A name, a sign and an operand, with any blanks between them. -/
def comparison? (t : Text) : Option (Text × Sign × Text) := do
  let (name, rest) ← t.leadingName?
  let (sign, operand) ← Sign.leading? rest.dropBlank
  some (name, sign, operand)

def ofComparison (t : Text) : Except Fault Leaf :=
  match comparison? t with
  | none => .error (.noCondition t)
  | some (name, sign, operand) => do
    return ⟨name, .compare sign (← Literal.ofText operand)⟩

/-- Reads a pattern, which must be a correct one. -/
def readPattern (t : Text) : Except Fault Pattern :=
  match Pattern.ofText? t with
  | some p => .ok p
  | none => .error (.invalidPattern t)

def ofLike (t : Text) : Except Fault Leaf := do
  let args ← Method.like.call t [[.dataName], [.string]]
  let name ← Argument.nth Argument.text? args 0
  let source ← Argument.nth Argument.text? args 1
  return ⟨name, .like (← readPattern source)⟩

/-- Whether the first of two literals is at most the second. Strings are
compared by code points, and all numbers as floats. -/
def inOrder (low high : Literal) : Bool :=
  match low, high with
  | .string a, .string b => ¬b < a
  | _, _ =>
    match low.asFloat?, high.asFloat? with
    | some a, some b => a.le b
    | _, _ => true

def ofRange (t : Text) : Except Fault Leaf := do
  let args ← Method.range.call t
    [[.dataName], ArgumentType.literal, ArgumentType.literal]
  let low ← Argument.nth Argument.literal? args 1
  let high ← Argument.nth Argument.literal? args 2
  if !low.sameType high then .error (.rangeType low high)
  else if !inOrder low high then .error (.rangeOrder low high)
  else do return ⟨← Argument.nth Argument.text? args 0, .range low high⟩

/-- What follows the word `not` and at least one blank. -/
def negated? (t : Text) : Option Text :=
  ((Text.dropPrefix? "not".toList t).bind Text.afterBlanks?).bind Text.restOfLine?

theorem length_lt_of_negated? {t inner : Text} (h : negated? t = some inner) :
    inner.length < t.length := by
  unfold negated? at h
  obtain ⟨u, hu, hinner⟩ := Option.bind_eq_some_iff.1 h
  obtain ⟨rest, hrest, hafter⟩ := Option.bind_eq_some_iff.1 hu
  have hlen := congrArg List.length (Text.eq_append_of_dropPrefix? hrest)
  have hword : "not".toList.length = 3 := rfl
  have h1 := Text.length_restOfLine?_le hinner
  have h2 := Text.length_afterBlanks?_le hafter
  simp only [List.length_append] at hlen
  omega

/-- The leaf with the opposite test. -/
def negate (l : Leaf) : Leaf := { l with test := .negation l.test }

def ofText (t : Text) : Except Fault Leaf :=
  match ofEventState? t with
  | some l => .ok l
  | none =>
    if (comparison? t).isSome then ofComparison t
    else if Method.like.isCalledBy t then ofLike t
    else if Method.range.isCalledBy t then ofRange t
    else
      match _h : negated? t with
      | some inner => (ofText inner).map negate
      | none => .error (.noCondition t)
termination_by t.length
decreasing_by exact length_lt_of_negated? _h

end Leaf

namespace Condition

def orSign : Text := ['|', '|']

def andSign : Text := ['&', '&']

def ofText (t : Text) : Except Fault Condition :=
  match _hor : t.split orSign none with
  | .error cause => .error cause
  | .ok parts =>
    if _horcut : 2 ≤ parts.length then
      (parts.attach.mapM fun p => ofText p.val).map any
    else
      match _hand : t.split andSign none with
      | .error cause => .error cause
      | .ok parts =>
        if _handcut : 2 ≤ parts.length then
          (parts.attach.mapM fun p => ofText p.val).map all
        else
          match _hparens : t.stripParens with
          | .error cause => .error cause
          | .ok (some inner) => ofText inner
          | .ok none => (Leaf.ofText t).map leaf
termination_by t.length
decreasing_by
  · exact Text.length_lt_of_mem_split _hor p.property _horcut
  · exact Text.length_lt_of_mem_split _hand p.property _handcut
  · exact Text.length_lt_of_stripParens _hparens

end Condition

end Overlay
