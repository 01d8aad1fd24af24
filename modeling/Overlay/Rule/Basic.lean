import Overlay.Rule.Merge
import Overlay.Rule.Trigger

/-!
Rules: transmissions, triggers and merges. A list of rules is kept by kind, in
the order of the source.
-/

namespace Overlay

inductive Rule
  | transmission (t : Transmission)
  | trigger (t : Trigger)
  | merge (m : Merge)
  deriving DecidableEq

namespace Rule

def transmission? : Rule → Option Transmission
  | transmission t => some t
  | _ => none

def trigger? : Rule → Option Trigger
  | trigger t => some t
  | _ => none

def merge? : Rule → Option Merge
  | merge m => some m
  | _ => none

def ofItem (s : StateBlock) (i : Item) : Except Diagnostic Rule :=
  match i.construct with
  | .transmission => (Transmission.ofUnit s i.unit).map transmission
  | .trigger => (Trigger.ofUnit s i.unit).map trigger
  | .merge => (Merge.ofUnit s i.unit).map merge
  | _ => .error (i.unit.diagnostic .noConstruct)

end Rule

structure Rules where
  transmissions : List Transmission
  triggers : List Trigger
  merges : List Merge
  deriving DecidableEq

namespace Rules

def ofList (rs : List Rule) : Rules :=
  { transmissions := rs.filterMap Rule.transmission?
    triggers := rs.filterMap Rule.trigger?
    merges := rs.filterMap Rule.merge? }

/-- The events that the triggers switch. -/
def events (r : Rules) : List Text := r.triggers.map Trigger.event

end Rules

end Overlay
