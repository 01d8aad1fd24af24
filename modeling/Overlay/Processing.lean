import Overlay.Aggregate
import Overlay.Condition.Encoding
import Overlay.VirtualProperty

/-!
Processing of data on their way: filtering by a condition, thinning out in
time or space, aggregation, replacement in strings and virtual properties.
-/

namespace Overlay

/-- The part of the data that is dropped, `numerator` of `denominator`. -/
structure Ratio where
  numerator : Int64
  denominator : Int64
  deriving DecidableEq

namespace Ratio

/-- Whether the ratio is above zero and at most one. -/
def isProper (r : Ratio) : Bool :=
  0 < r.numerator.toInt && r.numerator.toInt ≤ r.denominator.toInt

/-- The ratio in the first two arguments of a call. -/
def ofArguments (args : List Argument) : Except Fault Ratio := do
  let r : Ratio := ⟨← Argument.nth Argument.integer? args 0,
    ← Argument.nth Argument.integer? args 1⟩
  if r.isProper then .ok r else .error (.cullValue r.numerator r.denominator)

end Ratio

inductive Processing
  | filter (condition : Condition)
  | cullTime (ratio : Ratio) (window : TimeWindow)
  | cullSpace (ratio : Ratio) (window : SpaceWindow)
  | aggregate (a : Aggregate)
  | string (name : Text) (pattern : Pattern) (replacement : Text)
  | virtual (p : VirtualProperty)
  deriving DecidableEq

namespace Processing

def cullFormat : List (List ArgumentType) := [[.integer], [.integer], [.untyped]]

/-- Reads a call of a method, which must be one that processes data. -/
def ofText (m : Method) (t : Text) : Except Fault Processing :=
  match m with
  | .filter => do
    let args ← m.call t [[.untyped]]
    return .filter (← Condition.ofText (← Argument.nth Argument.untyped? args 0))
  | .cullTime => do
    let args ← m.call t cullFormat
    let ratio ← Ratio.ofArguments args
    return .cullTime ratio (← TimeWindow.ofText (← Argument.nth Argument.untyped? args 2))
  | .cullSpace => do
    let args ← m.call t cullFormat
    let ratio ← Ratio.ofArguments args
    return .cullSpace ratio (← SpaceWindow.ofText (← Argument.nth Argument.untyped? args 2))
  | .aggregate => (Aggregate.ofText t).map .aggregate
  | .string => do
    let args ← m.call t [[.dataName], [.string], [.string]]
    let name ← Argument.nth Argument.text? args 0
    let source ← Argument.nth Argument.text? args 1
    let replacement ← Argument.nth Argument.text? args 2
    return .string name (← Leaf.readPattern source) replacement
  | .virtual => (VirtualProperty.ofText t).map .virtual
  | m => .error (.unknownMethod m.label)

def toJson : Processing → Json
  | filter condition => .ofFields [("filter", condition.toJson)]
  | cullTime ratio window => .ofFields [("cull_time", cull ratio "time" window.toJson)]
  | cullSpace ratio window => .ofFields [("cull_space", cull ratio "space" window.toJson)]
  | aggregate a => .ofFields [("aggregate", a.toJson)]
  | string name pattern replacement => .ofFields [("string", .ofFields [
      ("name", .string name),
      ("pattern", .string pattern.source),
      ("replacement", .string replacement)])]
  | virtual p => .ofFields [("virtual", p.toJson)]
where
  cull (ratio : Ratio) (key : String) (window : Json) : Json :=
    .ofFields [
      ("denominator", .ofInt64 ratio.denominator),
      ("numerator", .ofInt64 ratio.numerator),
      (key, window)]

end Processing

end Overlay
