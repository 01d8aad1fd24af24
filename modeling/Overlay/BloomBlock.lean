import Overlay.Rule.Basic

/-!
The `bloom` block: rules that always hold, and event blocks, whose rules hold
while a condition on the states of events is satisfied. Every event that such
a condition names is switched by some trigger of the block.
-/

namespace Overlay

structure EventBlock where
  condition : Condition
  rules : Rules
  unit : SourceUnit
  deriving DecidableEq

namespace EventBlock

/-- The condition in a header line. -/
def readHeader (t : Text) : Except Fault Condition :=
  match t.beforeDo? with
  | none => .error (.noCondition t)
  | some condition => Condition.ofText condition.trim

def ofItem (s : StateBlock) (i : Item) : Except Diagnostic EventBlock := do
  let header ← i.header
  let condition ← header.locate (readHeader header.text)
  let rules ← (← Item.list (← i.body) Construct.rules).mapM (Rule.ofItem s)
  return ⟨condition, .ofList rules, i.unit⟩

end EventBlock

structure BloomBlock where
  rules : Rules
  events : List EventBlock
  unit : SourceUnit
  deriving DecidableEq

/-- What stands in the `bloom` block. -/
inductive Clause
  | rule (r : Rule)
  | event (e : EventBlock)
  deriving DecidableEq

namespace Clause

def rule? : Clause → Option Rule
  | rule r => some r
  | event _ => none

def event? : Clause → Option EventBlock
  | rule _ => none
  | event e => some e

def ofItem (s : StateBlock) (i : Item) : Except Diagnostic Clause :=
  match i.construct with
  | .eventBlock => (EventBlock.ofItem s i).map event
  | _ => (Rule.ofItem s i).map rule

end Clause

namespace BloomBlock

/-- The events that some trigger switches. -/
def definedEvents (b : BloomBlock) : List Text :=
  b.rules.events ++ b.events.flatMap fun e => e.rules.events

/-- Accepts an event block that names defined events only. -/
def checkEvent (b : BloomBlock) (e : EventBlock) : Except Diagnostic Unit :=
  match e.condition.dataNames.find? fun name => !b.definedEvents.contains name with
  | some name => .error (e.unit.diagnostic (.undefinedEvent name))
  | none => .ok ()

/-- The block of a list of clauses. -/
def ofClauses (cs : List Clause) (u : SourceUnit) : BloomBlock :=
  { rules := .ofList (cs.filterMap Clause.rule?)
    events := cs.filterMap Clause.event?
    unit := u }

def ofItem (s : StateBlock) (i : Item) : Except Diagnostic BloomBlock := do
  let cs ← (← Item.list (← i.body) Construct.rulesAndEvents).mapM (Clause.ofItem s)
  let b := ofClauses cs i.unit
  b.events.forM b.checkEvent
  return b

end BloomBlock

end Overlay
