import Overlay.Code.Basic

/-!
Intermediate code as a JSON value and as text. The fields of a record have a
fixed order, and the entries of a map are in key order. A merge without a
virtual property has no field for it.
-/

namespace Overlay

/-- A map as an object. -/
def Keyed.toJson (m : Keyed Json) : Json := .object m.entries

def Json.ofTexts (ts : List Text) : Json := .array (ts.map .string)

def EndRequest.toJson (r : EndRequest) : Json :=
  .ofFields [
    ("name", .string r.name),
    ("select", .ofTexts r.select),
    ("meta", r.metadata.toJson)]

def LinkRequest.toJson (r : LinkRequest) : Json :=
  .ofFields [
    ("processing", .array r.processing),
    ("channel", r.channel.toJson),
    ("scratch", r.scratch.toJson),
    ("qos", r.qos.toJson),
    ("id", .string r.id)]

def ServiceLink.toJson (l : ServiceLink) : Json :=
  .ofFields [
    ("src", .string l.source),
    ("dst", .string l.destination),
    ("app_request", l.request.toJson)]

def TriggerCode.toJson (c : TriggerCode) : Json :=
  .ofFields [
    ("trigger_interval", c.interval),
    ("trigger_conditions", c.countCondition),
    ("conditions", c.condition),
    ("channel", .string c.channel)]

def SwitchCode.toJson (c : SwitchCode) : Json :=
  .ofFields [
    ("on", .array (c.on.map TriggerCode.toJson)),
    ("off", .array (c.off.map TriggerCode.toJson))]

def MergeCode.toJson (c : MergeCode) : Json :=
  .ofFields (
    [("type", .string c.kind),
      ("delay", c.delay),
      ("src", .ofTexts c.sources),
      ("dst", .string c.destination)] ++
    (c.virtual.map fun v => ("virtual", v)).toList)

namespace RulesCode

/-- The fields of rules, which stand among other fields. -/
def fields (c : RulesCode) : List (String × Json) :=
  [("service_links", .array (c.links.map ServiceLink.toJson)),
    ("trigger", (c.triggers.mapValues SwitchCode.toJson).toJson),
    ("merges", .array (c.merges.map MergeCode.toJson))]

end RulesCode

def EventCode.toJson (c : EventCode) : Json :=
  .ofFields (("conditions", c.condition) :: c.rules.fields)

namespace Code

def toJson (c : Code) : Json :=
  .ofFields (
    [("overlay", .string c.overlay),
      ("services", (c.services.mapValues Keyed.toJson).toJson)] ++
    c.rules.fields ++
    [("events", .array (c.events.map EventCode.toJson))])

/-- The written form, on one line or indented, with a line feed at its end. -/
def text (indented : Bool) (c : Code) : Text :=
  (if indented then c.toJson.pretty 0 else c.toJson.compact) ++ ['\n']

end Code

end Overlay
