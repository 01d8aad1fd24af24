import Overlay.Declaration

/-!
The `state` block. Its declarations have different names, and the service of
each endpoint is declared, before or after the endpoint.
-/

namespace Overlay

structure StateBlock where
  services : List Service
  scratches : List Endpoint
  channels : List Endpoint
  unit : SourceUnit
  deriving DecidableEq

namespace StateBlock

def service? (s : StateBlock) (name : Text) : Option Service :=
  s.services.find? (·.name = name)

def scratch? (s : StateBlock) (name : Text) : Option Endpoint :=
  s.scratches.find? (·.name = name)

def channel? (s : StateBlock) (name : Text) : Option Endpoint :=
  s.channels.find? (·.name = name)

/-- The declarations of a list of items. `taken` holds the names of earlier
ones. -/
def declarationsFrom (taken : List Text) : List Item → Except Diagnostic (List Declaration)
  | [] => .ok []
  | i :: rest => do
    let d ← Declaration.ofItem i
    if taken.contains d.name then .error (d.unit.diagnostic (.duplicateDefinition d.name))
    else do return d :: (← declarationsFrom (d.name :: taken) rest)

/-- The block of a list of declarations. -/
def ofDeclarations (ds : List Declaration) (u : SourceUnit) : StateBlock :=
  { services := ds.filterMap Declaration.service?
    scratches := ds.filterMap (Declaration.endpoint? .scratch)
    channels := ds.filterMap (Declaration.endpoint? .channel)
    unit := u }

/-- Accepts a block in which the service of each endpoint is declared. -/
def checkServices (s : StateBlock) : Except Diagnostic Unit :=
  match (s.scratches ++ s.channels).find? fun e => (s.service? e.service).isNone with
  | some e => .error (e.unit.diagnostic (.undefinedService (serviceReference e.service)))
  | none => .ok ()

def ofItem (i : Item) : Except Diagnostic StateBlock := do
  let ds ← declarationsFrom [] (← Item.list (← i.body) Construct.declarations)
  let s := ofDeclarations ds i.unit
  s.checkServices
  return s

end StateBlock

end Overlay
