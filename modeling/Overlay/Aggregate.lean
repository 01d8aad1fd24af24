import Overlay.Window

/-!
Aggregations of a datum over a time window, a space window or both. The
windows may be given in either order.
-/

namespace Overlay

structure Aggregate where
  name : Text
  function : AggregateFunction
  time : Option TimeWindow
  space : Option SpaceWindow
  deriving DecidableEq

namespace Aggregate

/-- Adds the window that a text writes; there may be one of each kind. -/
def addWindow (a : Aggregate) (t : Text) : Except Fault Aggregate :=
  match Method.ofCall? t with
  | some .time =>
    if a.time.isSome then .error (.duplicateModifier .time)
    else do return { a with time := some (← TimeWindow.ofText t) }
  | some .space =>
    if a.space.isSome then .error (.duplicateModifier .space)
    else do return { a with space := some (← SpaceWindow.ofText t) }
  | _ => .error (.methodFormat .aggregate)

/-- The format of a call with a number of arguments: the datum, the function
and windows. -/
def format (count : Nat) : List (List ArgumentType) :=
  [.dataName] :: [.string] :: List.replicate (count - 2) [.untyped]

def ofText (t : Text) : Except Fault Aggregate := do
  let ts ← Method.aggregate.arguments t
  Method.aggregate.expectBetween ts 3 4
  let args ← Method.aggregate.convert ts (format ts.length)
  let name ← Argument.nth Argument.text? args 0
  let functionName ← Argument.nth Argument.text? args 1
  match AggregateFunction.ofName? functionName with
  | none => .error (.aggregateFunction functionName)
  | some function => (ts.drop 2).foldlM addWindow ⟨name, function, none, none⟩

def toJson (a : Aggregate) : Json :=
  .ofFields (
    [("function", .ofString a.function.name), ("name", .string a.name)] ++
      (a.space.map fun w => ("space", w.toJson)).toList ++
      (a.time.map fun w => ("time", w.toJson)).toList)

end Aggregate

end Overlay
