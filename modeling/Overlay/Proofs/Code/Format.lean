import Overlay.Code.Decoding
import Overlay.Proofs.Code.Form
import Overlay.Proofs.Outcome

/-!
The format of the code. Each record in the code has a form, to which its reader and
its writer belong: what is written is read again, and what is written of code that
was read is the value it was read from, without fields that the form does not have
and without a virtual property that is `null`. The form of the code is assembled from
these, along the records themselves.
-/

namespace Overlay

open Form (value required codes_value codes_text codes_texts codes_anyMap codes_array
  codes_record)

namespace EndRequest

def form : Form :=
  .record [required "name" value, required "select" value.list, required "meta" value.map]

def parts (r : EndRequest) : List (Option Json) :=
  [some (.string r.name), some (.ofTexts r.select), some r.metadata.toJson]

theorem form_codes : form.Codes ofJson? toJson fun _ => True := by
  refine codes_record 3 parts (by decide) (fun _ => rfl) (fun _ => rfl) (fun _ => rfl)
    (fun _ => trivial) ?back ?keeps
  case back =>
    intro r _
    simp only [parts, codes_text.back, codes_texts.back, codes_anyMap.back]
    rfl
  case keeps =>
    intro us r h
    split at h
    · simp only [Option.bind_eq_bind, Option.bind_eq_some_iff, Option.some.injEq] at h
      obtain ⟨name, hname, select, hselect, metadata, hmetadata, rfl⟩ := h
      exact .cons (codes_text.keeps "name" hname) (.cons (codes_texts.keeps "select" hselect)
        (.cons (codes_anyMap.keeps "meta" hmetadata) .nil))
    · cases h

end EndRequest

namespace LinkRequest

def form : Form :=
  .record [required "processing" value.list, required "channel" EndRequest.form,
    required "scratch" EndRequest.form, required "qos" value.map, required "id" value]

def parts (r : LinkRequest) : List (Option Json) :=
  [some (.array r.processing), some r.channel.toJson, some r.scratch.toJson, some r.qos.toJson,
    some (.string r.id)]

theorem form_codes : form.Codes ofJson? toJson fun _ => True := by
  refine codes_record 5 parts (by decide) (fun _ => rfl) (fun _ => rfl) (fun _ => rfl)
    (fun _ => trivial) ?back ?keeps
  case back =>
    intro r _
    simp only [parts, codes_array.back, EndRequest.form_codes.back, codes_anyMap.back,
      codes_text.back]
    rfl
  case keeps =>
    intro us r h
    split at h
    · simp only [Option.bind_eq_bind, Option.bind_eq_some_iff, Option.some.injEq] at h
      obtain ⟨processing, hprocessing, channel, hchannel, scratch, hscratch, qos, hqos, id, hid,
        rfl⟩ := h
      exact .cons (codes_array.keeps "processing" hprocessing)
        (.cons (EndRequest.form_codes.keeps "channel" hchannel)
        (.cons (EndRequest.form_codes.keeps "scratch" hscratch)
        (.cons (codes_anyMap.keeps "qos" hqos) (.cons (codes_text.keeps "id" hid) .nil))))
    · cases h

end LinkRequest

namespace ServiceLink

def form : Form :=
  .record [required "src" value, required "dst" value, required "app_request" LinkRequest.form]

def parts (l : ServiceLink) : List (Option Json) :=
  [some (.string l.source), some (.string l.destination), some l.request.toJson]

theorem form_codes : form.Codes ofJson? toJson fun _ => True := by
  refine codes_record 3 parts (by decide) (fun _ => rfl) (fun _ => rfl) (fun _ => rfl)
    (fun _ => trivial) ?back ?keeps
  case back =>
    intro l _
    simp only [parts, codes_text.back, LinkRequest.form_codes.back]
    rfl
  case keeps =>
    intro us l h
    split at h
    · simp only [Option.bind_eq_bind, Option.bind_eq_some_iff, Option.some.injEq] at h
      obtain ⟨source, hsource, destination, hdestination, request, hrequest, rfl⟩ := h
      exact .cons (codes_text.keeps "src" hsource) (.cons (codes_text.keeps "dst" hdestination)
        (.cons (LinkRequest.form_codes.keeps "app_request" hrequest) .nil))
    · cases h

end ServiceLink

namespace TriggerCode

def form : Form :=
  .record [required "trigger_interval" value, required "trigger_conditions" value,
    required "conditions" value, required "channel" value]

def parts (c : TriggerCode) : List (Option Json) :=
  [some c.interval, some c.countCondition, some c.condition, some (.string c.channel)]

theorem form_codes : form.Codes ofJson? toJson fun _ => True := by
  refine codes_record 4 parts (by decide) (fun _ => rfl) (fun _ => rfl) (fun _ => rfl)
    (fun _ => trivial) (fun _ => rfl) ?keeps
  intro us c h
  split at h
  · simp only [Option.bind_eq_bind, Option.bind_eq_some_iff, Option.some.injEq] at h
    obtain ⟨channel, hchannel, rfl⟩ := h
    exact .cons (codes_value.keeps "trigger_interval" rfl)
      (.cons (codes_value.keeps "trigger_conditions" rfl)
      (.cons (codes_value.keeps "conditions" rfl)
      (.cons (codes_text.keeps "channel" hchannel) .nil)))
  · cases h

end TriggerCode

namespace SwitchCode

def form : Form :=
  .record [required "on" TriggerCode.form.list, required "off" TriggerCode.form.list]

def parts (c : SwitchCode) : List (Option Json) :=
  [some (.array (c.on.map TriggerCode.toJson)), some (.array (c.off.map TriggerCode.toJson))]

theorem form_codes : form.Codes ofJson? toJson fun _ => True := by
  refine codes_record 2 parts (by decide) (fun _ => rfl) (fun _ => rfl) (fun _ => rfl)
    (fun _ => trivial) ?back ?keeps
  case back =>
    intro c _
    simp only [parts, TriggerCode.form_codes.list.back, implies_true]
    rfl
  case keeps =>
    intro us c h
    split at h
    · simp only [Option.bind_eq_bind, Option.bind_eq_some_iff, Option.some.injEq] at h
      obtain ⟨on, hon, off, hoff, rfl⟩ := h
      exact .cons (TriggerCode.form_codes.list.keeps "on" hon)
        (.cons (TriggerCode.form_codes.list.keeps "off" hoff) .nil)
    · cases h

end SwitchCode

namespace MergeCode

def form : Form :=
  .record [required "type" value, required "delay" value, required "src" value.list,
    required "dst" value, ⟨"virtual", value, true⟩]

def parts (c : MergeCode) : List (Option Json) :=
  [some (.string c.kind), some c.delay, some (.ofTexts c.sources), some (.string c.destination),
    c.virtual]

/-- Whether the virtual property, if there is one, is not `null`. -/
def Definite (c : MergeCode) : Prop := c.virtual ≠ some .null

theorem optional_of_ne {v : Option Json} (h : v ≠ some .null) : Json.optional v = v := by
  unfold Json.optional
  split
  · exact absurd rfl h
  · rfl

theorem optional_ne (v : Option Json) : Json.optional v ≠ some .null := by
  unfold Json.optional
  split
  · nofun
  · next hne => exact hne

/-- A virtual property that was read is written as it is, unless it is `null`. -/
theorem keeps_optional (v : Option Json) :
    Form.Field.Keeps ⟨"virtual", value, true⟩ v (Json.optional v) := by
  intro hv
  cases v with
  | none => rfl
  | some u =>
      obtain ⟨hordered, -⟩ := hv u rfl
      by_cases hnull : u = .null
      · subst hnull
        rfl
      · rw [optional_of_ne fun h => hnull (Option.some.inj h)]
        simp [Form.Field.prune?, hnull, value, Json.sorted_of_ordered u hordered]

theorem form_codes : form.Codes ofJson? toJson Definite := by
  refine codes_record 4 parts (by decide) (fun _ => rfl) ?write (fun _ => rfl) ?accepts ?back ?keeps
  case write =>
    -- The last field is written only if there is a virtual property.
    rintro ⟨kind, delay, sources, destination, virtual⟩
    cases virtual <;> rfl
  case accepts =>
    intro us c h
    split at h
    · next v =>
      simp only [Option.bind_eq_bind, Option.bind_eq_some_iff, Option.some.injEq] at h
      obtain ⟨kind, -, sources, -, destination, -, rfl⟩ := h
      exact optional_ne v
    · cases h
  case back =>
    intro c hc
    simp only [parts, codes_text.back, codes_texts.back, optional_of_ne hc]
    rfl
  case keeps =>
    intro us c h
    split at h
    · next v =>
      simp only [Option.bind_eq_bind, Option.bind_eq_some_iff, Option.some.injEq] at h
      obtain ⟨kind, hkind, sources, hsources, destination, hdestination, rfl⟩ := h
      exact .cons (codes_text.keeps "type" hkind) (.cons (codes_value.keeps "delay" rfl)
        (.cons (codes_texts.keeps "src" hsources) (.cons (codes_text.keeps "dst" hdestination)
        (.cons (keeps_optional v) .nil))))
    · cases h

/-- A virtual property is written as an object. -/
theorem definite_ofMerge (m : Merge) : m.code.Definite := by
  show m.virtual.map VirtualProperty.toJson ≠ some .null
  cases m.virtual <;> nofun

end MergeCode

namespace RulesCode

/-- The fields of rules, as those of another record. -/
def formFields : List Form.Field :=
  [required "service_links" ServiceLink.form.list, required "trigger" SwitchCode.form.map,
    required "merges" MergeCode.form.list]

def parts (c : RulesCode) : List (Option Json) :=
  [some (.array (c.links.map ServiceLink.toJson)),
    some (c.triggers.mapValues SwitchCode.toJson).toJson,
    some (.array (c.merges.map MergeCode.toJson))]

def Definite (c : RulesCode) : Prop := ∀ m ∈ c.merges, m.Definite

theorem ofFields?_toJson {c : RulesCode} (h : c.Definite) :
    ofFields? (.array (c.links.map ServiceLink.toJson))
      (c.triggers.mapValues SwitchCode.toJson).toJson (.array (c.merges.map MergeCode.toJson)) =
      some c := by
  simp only [ofFields?, ServiceLink.form_codes.list.back, SwitchCode.form_codes.map.back,
    MergeCode.form_codes.list.back h, implies_true]
  rfl

variable {links triggers merges : Json} {c : RulesCode}

theorem definite_of_ofFields? (h : ofFields? links triggers merges = some c) : c.Definite := by
  simp only [ofFields?, Option.bind_eq_bind, Option.bind_eq_some_iff, Option.some.injEq] at h
  obtain ⟨ls, -, ts, -, ms, hmerges, rfl⟩ := h
  exact MergeCode.form_codes.list.accepts hmerges

theorem definite_empty : empty.Definite := List.forall_mem_nil _

theorem definite_add (h : c.Definite) (r : Rules) : (c.add r).Definite := by
  intro m hm
  rcases List.mem_append.1 hm with hm | hm
  · exact h m hm
  · obtain ⟨merge, -, rfl⟩ := List.mem_map.1 hm
    exact MergeCode.definite_ofMerge merge

theorem keeps_of_ofFields? (h : ofFields? links triggers merges = some c) :
    List.Forall₂ (fun p w => p.1.Keeps p.2 w)
      (formFields.zip [some links, some triggers, some merges]) c.parts := by
  simp only [ofFields?, Option.bind_eq_bind, Option.bind_eq_some_iff, Option.some.injEq] at h
  obtain ⟨ls, hlinks, ts, htriggers, ms, hmerges, rfl⟩ := h
  exact .cons (ServiceLink.form_codes.list.keeps "service_links" hlinks)
    (.cons (SwitchCode.form_codes.map.keeps "trigger" htriggers)
    (.cons (MergeCode.form_codes.list.keeps "merges" hmerges) .nil))

end RulesCode

namespace EventCode

def form : Form := .record (required "conditions" value :: RulesCode.formFields)

def parts (c : EventCode) : List (Option Json) := some c.condition :: c.rules.parts

theorem form_codes : form.Codes ofJson? toJson fun c => c.rules.Definite := by
  refine codes_record 4 parts (by decide) (fun _ => rfl) (fun _ => rfl) (fun _ => rfl)
    ?accepts ?back ?keeps
  case accepts =>
    intro us c h
    split at h
    · simp only [Option.bind_eq_bind, Option.bind_eq_some_iff, Option.some.injEq] at h
      obtain ⟨rules, hrules, rfl⟩ := h
      exact RulesCode.definite_of_ofFields? hrules
    · cases h
  case back =>
    intro c hc
    simp only [parts, RulesCode.parts, RulesCode.ofFields?_toJson hc]
    rfl
  case keeps =>
    intro us c h
    split at h
    · simp only [Option.bind_eq_bind, Option.bind_eq_some_iff, Option.some.injEq] at h
      obtain ⟨rules, hrules, rfl⟩ := h
      exact .cons (codes_value.keeps "conditions" rfl) (RulesCode.keeps_of_ofFields? hrules)
    · cases h

end EventCode

namespace Code

def form : Form :=
  .record ([required "overlay" value, required "services" value.map.map] ++ RulesCode.formFields ++
    [required "events" EventCode.form.list])

def parts (c : Code) : List (Option Json) :=
  [some (.string c.overlay), some (c.services.mapValues Keyed.toJson).toJson] ++ c.rules.parts ++
    [some (.array (c.events.map EventCode.toJson))]

/-- Whether no virtual property in the code is `null`. -/
def Definite (c : Code) : Prop := c.rules.Definite ∧ ∀ e ∈ c.events, e.rules.Definite

theorem form_codes : form.Codes ofJson? toJson Definite := by
  refine codes_record 6 parts (by decide) (fun _ => rfl) (fun _ => rfl) (fun _ => rfl)
    ?accepts ?back ?keeps
  case accepts =>
    intro us c h
    split at h
    · simp only [Option.bind_eq_bind, Option.bind_eq_some_iff, Option.some.injEq] at h
      obtain ⟨overlay, -, services, -, rules, hrules, events, hevents, rfl⟩ := h
      exact ⟨RulesCode.definite_of_ofFields? hrules, EventCode.form_codes.list.accepts hevents⟩
    · cases h
  case back =>
    intro c ⟨hrules, hevents⟩
    simp only [parts, RulesCode.parts, List.cons_append, List.nil_append, codes_text.back,
      codes_anyMap.map.back, RulesCode.ofFields?_toJson hrules,
      EventCode.form_codes.list.back hevents, implies_true]
    rfl
  case keeps =>
    intro us c h
    split at h
    · simp only [Option.bind_eq_bind, Option.bind_eq_some_iff, Option.some.injEq] at h
      obtain ⟨overlay, hoverlay, services, hservices, rules, hrules, events, hevents, rfl⟩ := h
      exact .cons (codes_text.keeps "overlay" hoverlay)
        (.cons (codes_anyMap.map.keeps "services" hservices)
        (List.rel_append (RulesCode.keeps_of_ofFields? hrules)
          (.cons (EventCode.form_codes.list.keeps "events" hevents) .nil)))
    · cases h

theorem definite_add {c : Code} (h : c.Definite) (d : Description) : (c.add d).Definite := by
  obtain ⟨hrules, hevents⟩ := h
  refine ⟨RulesCode.definite_add hrules d.bloom.rules, fun e he => ?_⟩
  rcases List.mem_append.1 he with he | he
  · exact hevents e he
  · obtain ⟨b, -, rfl⟩ := List.mem_map.1 he
    exact RulesCode.definite_add RulesCode.definite_empty b.rules

theorem definite_ofDescription (overlay : Text) (d : Description) :
    (ofDescription overlay d).Definite :=
  definite_add ⟨RulesCode.definite_empty, List.forall_mem_nil _⟩ d

/-- Code that was compiled is read from the value it is written as. Code that was
read is read again, and if each record was an object, it is written as the value it
was read from, up to the order of fields: only fields that a record does not have,
and a virtual property that is `null`, are left out. -/
theorem format_round_trips :
    (∀ {overlay t c}, compile overlay t = .ok c → ofJson? c.toJson = some c) ∧
    ∀ {v c}, ofJson? v = some c → ofJson? c.toJson = some c ∧
      (v.Ordered → form.InObjects v → c.toJson.sorted = form.prune v) := by
  constructor
  · intro overlay t c h
    obtain ⟨d, -, rfl⟩ := Except.map_eq_ok_iff.1 h
    exact form_codes.back (definite_ofDescription overlay d)
  · intro v c h
    exact ⟨form_codes.back (form_codes.accepts h), form_codes.pruned h⟩

/-- A description with a virtual property. -/
def joining : Text := ['\n'].intercalate ([
  "state do",
  "  @meter: discovery(type=\"meter\")",
  "  channel north: @meter",
  "  channel south: @meter",
  "  channel total: @meter",
  "end",
  "bloom do",
  "  total <~ join(5, north, south, virtual(sum, \"a + b\"))",
  "end"].map String.toList)

/-- Code with a field that is not of its format, and with a virtual property that
is `null`. -/
def remarked : Json := .object [
  ("events".toList, .array []),
  ("merges".toList, .array [.object [
    ("delay".toList, .object [("unit".toList, .null)]),
    ("dst".toList, .string "total".toList),
    ("src".toList, .array [.string "north".toList]),
    ("type".toList, .string "merge".toList),
    ("virtual".toList, .null)]]),
  ("overlay".toList, .string "o".toList),
  ("remark".toList, .bool true),
  ("service_links".toList, .array []),
  ("services".toList, .object []),
  ("trigger".toList, .object [])]

theorem ordered_remarked : remarked.Ordered := by
  simp only [remarked, Json.Ordered, Json.OrderedItems, Json.OrderedFields]
  decide

theorem inObjects_remarked : form.InObjects remarked := by
  simp [form, remarked, RulesCode.formFields, MergeCode.form, Form.record, required, Form.list,
    Form.map, Form.value, Keyed.lookup_cons]

theorem format_round_trips_joining_remarked :
    (∃ c, compile [] joining = .ok c ∧
      c.rules.merges.map (fun m => m.virtual.isSome) = [true] ∧ ofJson? c.toJson = some c) ∧
    ∃ c, ofJson? remarked = some c ∧ c.rules.merges.map (fun m => m.virtual.isSome) = [false] ∧
      ofJson? c.toJson = some c ∧ c.toJson.sorted = form.prune remarked := by
  constructor
  · have hvirtual : (compile [] joining).toOption.map (fun c =>
        c.rules.merges.map fun m => m.virtual.isSome) = some [true] := by
      -- Lists of characters cost the kernel less than the literals they come from.
      simp only [joining, List.map_cons, List.map_nil]
      repeat rw [String.toList_ofList]
      decide +kernel
    obtain ⟨c, h, hc⟩ := Except.exists_ok_of_map hvirtual
    exact ⟨c, h, hc, format_round_trips.1 h⟩
  · have hvirtual : (ofJson? remarked).map (fun c =>
        c.rules.merges.map fun m => m.virtual.isSome) = some [false] := by decide +kernel
    obtain ⟨c, h, hc⟩ := Option.map_eq_some_iff.1 hvirtual
    obtain ⟨hback, hpruned⟩ := format_round_trips.2 h
    exact ⟨c, h, hc, hback, hpruned ordered_remarked inObjects_remarked⟩

end Code

end Overlay
