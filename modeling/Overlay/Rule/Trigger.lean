import Overlay.Condition.Reader
import Overlay.StateBlock
import Overlay.Window

/-!
Triggers, `event <+ channel.trigger(interval, count > n, condition)`: in each
interval the records on a channel that satisfy the condition are counted, and
the event is switched on, or with `<-` off, when the count passes a comparison.
-/

namespace Overlay

inductive Switch
  | on
  | off
  deriving DecidableEq

def Switch.name : Switch → String
  | on => "on"
  | off => "off"

structure Trigger where
  event : Text
  switch : Switch
  channel : Text
  interval : Literal
  countCondition : Leaf
  condition : Condition
  unit : SourceUnit
  deriving DecidableEq

namespace Trigger

/-- The event, the direction of the switch and what follows. -/
def head? (t : Text) : Option (Text × Switch × Text) := do
  let (event, rest) ← Text.nameThen? ['<'] t
  match rest with
  | '+' :: rest => (Text.restOfLine? rest).map fun rest => (event, .on, rest)
  | '-' :: rest => (Text.restOfLine? rest).map fun rest => (event, .off, rest)
  | _ => none

/-- Whether a leaf compares the count with a number. -/
def comparesCount (l : Leaf) : Bool :=
  match l.test with
  | .compare _ threshold => l.dataName = "count".toList && threshold.isNumber
  | _ => false

/-- Reads a comparison of the count with a number. -/
def readCount (t : Text) : Except Fault Leaf :=
  match Leaf.ofComparison t with
  | .ok l => if comparesCount l then .ok l else .error (.triggerCondition t)
  | .error _ => .error (.triggerCondition t)

def format : List (List ArgumentType) := [ArgumentType.number, [.untyped], [.untyped]]

def read (s : StateBlock) (u : SourceUnit) : Except Fault Trigger :=
  match head? u.text with
  | none => .error (.methodFormat .trigger)
  | some (event, switch, rest) => do
    checkName event
    match ← rest.split ['.'] (some 2) with
    | [channel, call] =>
      checkName channel
      let args ← Method.trigger.call call format
      let interval ← Argument.nth Argument.literal? args 0
      checkPositive .triggerInterval interval
      let countCondition ← readCount (← Argument.nth Argument.untyped? args 1)
      let condition ← Condition.ofText (← Argument.nth Argument.untyped? args 2)
      if (s.channel? channel).isNone then .error (.undefinedChannel channel)
      else .ok ⟨event, switch, channel, interval, countCondition, condition, u⟩
    | _ => .error (.methodFormat .trigger)

def ofUnit (s : StateBlock) (u : SourceUnit) : Except Diagnostic Trigger := u.locate (read s u)

end Trigger

end Overlay
