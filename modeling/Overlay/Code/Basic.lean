import Overlay.Description

/-!
Intermediate code of an overlay, and how it is made from descriptions. Code
holds the services with their queries, and rules that always hold or hold
while a condition on events is satisfied. Conditions, processing and literals
are JSON values in it. Several descriptions can be added to one code; a later
service replaces an earlier one with the same reference, and all else is put
after what is there.
-/

namespace Overlay

/-- What an application is asked for at an end of a link. -/
structure EndRequest where
  name : Text
  select : List Text
  metadata : Keyed Json
  deriving DecidableEq

/-- What applications are asked for on a link. Without a quality of service the
map is empty, and without an identifier the text. -/
structure LinkRequest where
  processing : List Json
  channel : EndRequest
  scratch : EndRequest
  qos : Keyed Json
  id : Text
  deriving DecidableEq

/-- A link from one service to another, both given by reference. -/
structure ServiceLink where
  source : Text
  destination : Text
  request : LinkRequest
  deriving DecidableEq

structure TriggerCode where
  interval : Json
  countCondition : Json
  condition : Json
  channel : Text
  deriving DecidableEq

/-- The triggers that switch an event on, and those that switch it off. -/
structure SwitchCode where
  on : List TriggerCode
  off : List TriggerCode
  deriving DecidableEq

structure MergeCode where
  kind : Text
  delay : Json
  sources : List Text
  destination : Text
  virtual : Option Json
  deriving DecidableEq

structure RulesCode where
  links : List ServiceLink
  triggers : Keyed SwitchCode
  merges : List MergeCode
  deriving DecidableEq

structure EventCode where
  condition : Json
  rules : RulesCode
  deriving DecidableEq

structure Code where
  overlay : Text
  services : Keyed (Keyed Json)
  rules : RulesCode
  events : List EventCode
  deriving DecidableEq

def PathEnd.request (e : PathEnd) : EndRequest := ⟨e.name, e.select, e.metadata.toJson⟩

def Transmission.link (t : Transmission) : ServiceLink :=
  { source := serviceReference t.source
    destination := serviceReference t.destination
    request := {
      processing := t.processing.map Processing.toJson
      channel := t.channel.request
      scratch := t.scratch.request
      qos := (t.qos.map Qos.toJson).getD Keyed.empty
      id := t.id.getD [] } }

def Trigger.code (t : Trigger) : TriggerCode :=
  ⟨t.interval.toJson, t.countCondition.toJson, t.condition.toJson, t.channel⟩

def Merge.code (m : Merge) : MergeCode :=
  ⟨m.kind.method.label, m.delay.toJson, m.sources, m.destination,
    m.virtual.map VirtualProperty.toJson⟩

namespace SwitchCode

def empty : SwitchCode := ⟨[], []⟩

def add (c : SwitchCode) : Switch → TriggerCode → SwitchCode
  | .on, t => { c with on := c.on ++ [t] }
  | .off, t => { c with off := c.off ++ [t] }

end SwitchCode

namespace RulesCode

def empty : RulesCode := ⟨[], .empty, []⟩

/-- Puts a trigger after the others of its event. -/
def addTrigger (m : Keyed SwitchCode) (t : Trigger) : Keyed SwitchCode :=
  m.update t.event fun c => (c.getD .empty).add t.switch t.code

def add (c : RulesCode) (r : Rules) : RulesCode :=
  { links := c.links ++ r.transmissions.map Transmission.link
    triggers := r.triggers.foldl addTrigger c.triggers
    merges := c.merges ++ r.merges.map Merge.code }

end RulesCode

def EventBlock.code (e : EventBlock) : EventCode :=
  ⟨e.condition.toJson, RulesCode.empty.add e.rules⟩

namespace Code

/-- The code of an overlay without any description. -/
def empty (overlay : Text) : Code := ⟨overlay, .empty, .empty, []⟩

def addService (m : Keyed (Keyed Json)) (s : Service) : Keyed (Keyed Json) :=
  m.insert s.reference s.query.toJson

def add (c : Code) (d : Description) : Code :=
  { c with
    services := d.state.services.foldl addService c.services
    rules := c.rules.add d.bloom.rules
    events := c.events ++ d.bloom.events.map EventBlock.code }

/-- The code of several descriptions, the first of them first. -/
def ofDescriptions (overlay : Text) (ds : List Description) : Code :=
  ds.foldl add (empty overlay)

def ofDescription (overlay : Text) (d : Description) : Code := (empty overlay).add d

/-- Compiles the text of a description. -/
def compile (overlay t : Text) : Except Diagnostic Code :=
  (Description.ofText t).map (ofDescription overlay)

end Code

end Overlay
