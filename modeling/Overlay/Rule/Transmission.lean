import Overlay.Rule.Chain
import Overlay.StateBlock

/-!
Transmissions, `channel <~ scratch`: a data path from a scratch to a channel,
with a chain of calls on either side. It leads from the service of the scratch
to the service of the channel.
-/

namespace Overlay

/-- An end of a data path. An empty selection stands for all data. -/
structure PathEnd where
  name : Text
  select : List Text
  metadata : Metadata
  deriving DecidableEq

def Chain.pathEnd (c : Chain) : PathEnd :=
  ⟨c.name, c.select.getD [], c.metadata.getD Keyed.empty⟩

structure Transmission where
  channel : PathEnd
  scratch : PathEnd
  source : Text
  destination : Text
  processing : List Processing
  qos : Option Qos
  id : Option Text
  unit : SourceUnit
  deriving DecidableEq

namespace StateBlock

/-- The service of a declared channel. -/
def serviceOfChannel (s : StateBlock) (name : Text) : Except Fault Text :=
  match s.channel? name with
  | some e => .ok e.service
  | none => .error (.undefinedChannel name)

/-- The service of a declared scratch. -/
def serviceOfScratch (s : StateBlock) (name : Text) : Except Fault Text :=
  match s.scratch? name with
  | some e => .ok e.service
  | none => .error (.undefinedScratch name)

end StateBlock

namespace Transmission

def arrow : Text := ['<', '~']

def read (s : StateBlock) (u : SourceUnit) : Except Fault Transmission := do
  match ← u.text.split arrow (some 2) with
  | [left, right] =>
    let channel ← Chain.ofText .channel left
    let scratch ← Chain.ofText .scratch right
    let destination ← s.serviceOfChannel channel.name
    let source ← s.serviceOfScratch scratch.name
    return {
      channel := channel.pathEnd
      scratch := scratch.pathEnd
      source
      destination
      processing := scratch.processing
      qos := scratch.qos
      id := scratch.id
      unit := u }
  | _ => .error .expectedTransmission

def ofUnit (s : StateBlock) (u : SourceUnit) : Except Diagnostic Transmission :=
  u.locate (read s u)

end Transmission

end Overlay
