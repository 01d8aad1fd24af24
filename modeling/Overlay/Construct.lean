/-!
The constructs of a description. Three of them are blocks, which begin with a
line that ends in `do` and are closed by a line `end`; the others end with the
line on which their brackets are closed.
-/

namespace Overlay

inductive Construct
  | stateBlock
  | bloomBlock
  | eventBlock
  | service
  | scratch
  | channel
  | transmission
  | trigger
  | merge
  deriving DecidableEq

namespace Construct

def all : List Construct :=
  [stateBlock, bloomBlock, eventBlock, service, scratch, channel, transmission, trigger, merge]

def name : Construct → String
  | stateBlock => "state do"
  | bloomBlock => "bloom do"
  | eventBlock => "event block"
  | service => "service"
  | scratch => "scratch"
  | channel => "channel"
  | transmission => "transmission"
  | trigger => "trigger"
  | merge => "merge"

def isBlock : Construct → Bool
  | stateBlock | bloomBlock | eventBlock => true
  | _ => false

/-- What may stand outside of all blocks. -/
def topLevel : List Construct := [stateBlock, bloomBlock]

/-- What may stand in the `state` block. -/
def declarations : List Construct := [service, scratch, channel]

/-- What may stand in an event block. A merge would also pass for a
transmission, so it is tried first. -/
def rules : List Construct := [merge, transmission, trigger]

/-- What may stand in the `bloom` block. -/
def rulesAndEvents : List Construct := [merge, transmission, trigger, eventBlock]

end Construct

end Overlay
