import Overlay.Code.Encoding

/-!
Reading intermediate code from a JSON value. A record is an object with all of
its fields, other fields being ignored, or a list of their values in the fixed
order. A virtual property may be missing or `null`.
-/

namespace Overlay.Json

/-- The values of the named fields of a record. A missing field has no value,
which the reader of that field may accept; a list has no missing fields,
except at its end. -/
def record? (names : List String) (least : Nat) (v : Json) : Option (List (Option Json)) :=
  match v with
  | .object fields => some (names.map fun name => fields.lookup name.toList)
  | .array items =>
    if least ≤ items.length ∧ items.length ≤ names.length then
      some (items.map some ++ List.replicate (names.length - items.length) none)
    else none
  | _ => none

/-- Every item of a list, read in the same way. -/
def list? {α : Type} (read : Json → Option α) (v : Json) : Option (List α) :=
  v.asArray?.bind fun items => items.mapM read

/-- Every value of a map, read in the same way. -/
def map? {α : Type} (read : Json → Option α) (v : Json) : Option (Keyed α) := do
  let fields ← v.asObject?
  let entries ← fields.mapM fun f => (read f.2).map fun a => (f.1, a)
  some (.ofList entries)

/-- A map with any values. -/
def anyMap? (v : Json) : Option (Keyed Json) := map? some v

end Overlay.Json

namespace Overlay

open Json (record? list? map? anyMap?)

def EndRequest.ofJson? (v : Json) : Option EndRequest := do
  match ← record? ["name", "select", "meta"] 3 v with
  | [some name, some select, some metadata] =>
    some ⟨← name.asText?, ← list? Json.asText? select, ← anyMap? metadata⟩
  | _ => none

def LinkRequest.ofJson? (v : Json) : Option LinkRequest := do
  match ← record? ["processing", "channel", "scratch", "qos", "id"] 5 v with
  | [some processing, some channel, some scratch, some qos, some id] =>
    some {
      processing := ← processing.asArray?
      channel := ← EndRequest.ofJson? channel
      scratch := ← EndRequest.ofJson? scratch
      qos := ← anyMap? qos
      id := ← id.asText? }
  | _ => none

def ServiceLink.ofJson? (v : Json) : Option ServiceLink := do
  match ← record? ["src", "dst", "app_request"] 3 v with
  | [some source, some destination, some request] =>
    some ⟨← source.asText?, ← destination.asText?, ← LinkRequest.ofJson? request⟩
  | _ => none

def TriggerCode.ofJson? (v : Json) : Option TriggerCode := do
  match ← record? ["trigger_interval", "trigger_conditions", "conditions", "channel"] 4 v with
  | [some interval, some countCondition, some condition, some channel] =>
    some ⟨interval, countCondition, condition, ← channel.asText?⟩
  | _ => none

def SwitchCode.ofJson? (v : Json) : Option SwitchCode := do
  match ← record? ["on", "off"] 2 v with
  | [some on, some off] =>
    some ⟨← list? TriggerCode.ofJson? on, ← list? TriggerCode.ofJson? off⟩
  | _ => none

/-- A field that may be missing or `null`. -/
def Json.optional : Option Json → Option Json
  | some .null => none
  | v => v

def MergeCode.ofJson? (v : Json) : Option MergeCode := do
  match ← record? ["type", "delay", "src", "dst", "virtual"] 4 v with
  | [some kind, some delay, some sources, some destination, virtual] =>
    some {
      kind := ← kind.asText?
      delay
      sources := ← list? Json.asText? sources
      destination := ← destination.asText?
      virtual := Json.optional virtual }
  | _ => none

def RulesCode.ofFields? (links triggers merges : Json) : Option RulesCode := do
  some ⟨← list? ServiceLink.ofJson? links, ← map? SwitchCode.ofJson? triggers,
    ← list? MergeCode.ofJson? merges⟩

def EventCode.ofJson? (v : Json) : Option EventCode := do
  match ← record? ["conditions", "service_links", "trigger", "merges"] 4 v with
  | [some condition, some links, some triggers, some merges] =>
    some ⟨condition, ← RulesCode.ofFields? links triggers merges⟩
  | _ => none

def Code.ofJson? (v : Json) : Option Code := do
  match ← record? ["overlay", "services", "service_links", "trigger", "merges", "events"] 6 v with
  | [some overlay, some services, some links, some triggers, some merges, some events] =>
    some {
      overlay := ← overlay.asText?
      services := ← map? anyMap? services
      rules := ← RulesCode.ofFields? links triggers merges
      events := ← list? EventCode.ofJson? events }
  | _ => none

end Overlay
