import Overlay.Code.Basic
import Overlay.Proofs.Condition.RoundTrip
import Overlay.Proofs.Description

/-!
Names in compiled code. What the rules of a description name is still declared
after the translation: links lead between services of the code, and from a
scratch of the one to a channel of the other. The triggers of an event are
kept under its name, so that the events in a condition are keys of the code.
-/

namespace Overlay

namespace Condition

mutual

/-- The names of the data that a condition in the code tests. -/
def namesIn : Json → List Text
  | .object [(key, .array items)] =>
    if key = andKey ∨ key = orKey then namesInAll items else [key]
  | _ => []

def namesInAll : List Json → List Text
  | [] => []
  | v :: vs => namesIn v ++ namesInAll vs

end

theorem namesInAll_eq_flatMap (vs : List Json) : namesInAll vs = vs.flatMap namesIn := by
  induction vs with
  | nil => rfl
  | cons v vs ih => rw [namesInAll, ih, List.flatMap_cons]

theorem namesIn_leaf {l : Leaf} (h : l.dataName.isName = true) :
    namesIn l.toJson = [l.dataName] := by
  obtain ⟨items, hitems⟩ := l.test.exists_toJson_eq_array
  rw [Leaf.toJson, hitems, namesIn, if_neg (not_or.2 (ne_key_of_isName h))]

theorem namesIn_toJson {c : Condition} (h : c.IsTree) :
    namesIn c.toJson = c.leaves.map Leaf.dataName := by
  induction c using node_induct with
  | node k cs ih =>
      have hparts : ∀ c ∈ cs, namesIn c.toJson = c.leaves.map Leaf.dataName := fun c hc =>
        ih c hc ((isTree_node.1 h).2 c hc)
      rw [toJson_node, namesIn, if_pos k.key_eq, namesInAll_eq_flatMap, List.flatMap_map,
        leaves_node, List.map_flatMap]
      exact List.flatMap_congr hparts
  | leaf l => exact namesIn_leaf h

end Condition

namespace SwitchCode

/-- All triggers of an event. -/
def triggers (c : SwitchCode) : List TriggerCode := c.on ++ c.off

@[simp] theorem triggers_empty : empty.triggers = [] := rfl

theorem mem_triggers_add {c : SwitchCode} {switch : Switch} {t u : TriggerCode} :
    u ∈ (c.add switch t).triggers ↔ u = t ∨ u ∈ c.triggers := by
  cases switch <;> simp [add, triggers, or_comm, or_left_comm]

end SwitchCode

/-- Whether the ends of a link are declared for the services between which it
leads, and these are in the code. -/
structure ServiceLink.Resolves (s : StateBlock) (services : Keyed (Keyed Json))
    (l : ServiceLink) : Prop where
  source : services.contains l.source = true
  destination : services.contains l.destination = true
  scratch : ∃ service, s.HasScratch l.request.scratch.name service ∧
    l.source = serviceReference service
  channel : ∃ service, s.HasChannel l.request.channel.name service ∧
    l.destination = serviceReference service

/-- Whether the triggers of each event are on declared channels. -/
def TriggersResolve (s : StateBlock) (m : Keyed SwitchCode) : Prop :=
  ∀ event c, m.find? event = some c →
    IsProperName event ∧ ∀ t ∈ c.triggers, s.DeclaresChannel t.channel

/-- Whether the channels of a merge are declared. -/
structure MergeCode.Resolves (s : StateBlock) (m : MergeCode) : Prop where
  destination : s.DeclaresChannel m.destination
  sources : ∀ name ∈ m.sources, s.DeclaresChannel name

/-- Whether every rule in the code resolves. -/
structure RulesCode.Resolves (s : StateBlock) (services : Keyed (Keyed Json))
    (c : RulesCode) : Prop where
  links : ∀ l ∈ c.links, l.Resolves s services
  triggers : TriggersResolve s c.triggers
  merges : ∀ m ∈ c.merges, m.Resolves s

namespace RulesCode

variable {s : StateBlock} {services : Keyed (Keyed Json)}

theorem triggersResolve_addTrigger {m : Keyed SwitchCode} {t : Trigger}
    (hm : TriggersResolve s m) (ht : t.Resolves s) : TriggersResolve s (addTrigger m t) := by
  intro event c hfind
  rw [addTrigger, Keyed.find?_update] at hfind
  split at hfind
  · next heq =>
    cases hfind
    refine ⟨heq ▸ ht.event, fun u hu => ?_⟩
    rcases SwitchCode.mem_triggers_add.1 hu with rfl | hu
    · exact ht.channel
    · cases hpresent : m.find? t.event with
      | none => simp [hpresent] at hu
      | some present =>
          rw [hpresent] at hu
          exact (hm t.event present hpresent).2 u hu
  · exact hm event c hfind

theorem triggersResolve_foldl {m : Keyed SwitchCode} {ts : List Trigger}
    (hm : TriggersResolve s m) (hts : ∀ t ∈ ts, t.Resolves s) :
    TriggersResolve s (ts.foldl addTrigger m) := by
  induction ts generalizing m with
  | nil => exact hm
  | cons t ts ih =>
      have ht := hts t List.mem_cons_self
      exact ih (triggersResolve_addTrigger hm ht) fun u hu => hts u (List.mem_cons_of_mem _ hu)

theorem resolves_empty : empty.Resolves s services where
  links := nofun
  triggers := nofun
  merges := nofun

theorem resolves_add {c : RulesCode} {r : Rules} (hs : s.WellFormed)
    (hservices : ∀ v ∈ s.services, services.contains v.reference = true)
    (hc : c.Resolves s services) (hr : r.Resolves s) : (c.add r).Resolves s services := by
  -- The owner of an endpoint is declared, and so it is a key of the code.
  have hcontains : ∀ e ∈ s.scratches ++ s.channels,
      services.contains (serviceReference e.service) = true := by
    intro e he
    obtain ⟨v, hv, hname⟩ := hs.owned e he
    have hkey := hservices v hv
    rwa [Service.reference, hname] at hkey
  constructor
  case links =>
    intro l hl
    rcases List.mem_append.1 hl with hl | hl
    · exact hc.links l hl
    · obtain ⟨t, ht, rfl⟩ := List.mem_map.1 hl
      obtain ⟨hchannel, hscratch⟩ := hr.transmissions t ht
      obtain ⟨e, he, -, hsource⟩ := id hscratch
      obtain ⟨f, hf, -, hdestination⟩ := id hchannel
      have hfrom := hcontains e (List.mem_append_left _ he)
      have hto := hcontains f (List.mem_append_right _ hf)
      rw [hsource] at hfrom
      rw [hdestination] at hto
      exact {
        source := hfrom
        destination := hto
        scratch := ⟨t.source, hscratch, rfl⟩
        channel := ⟨t.destination, hchannel, rfl⟩ }
  case triggers => exact triggersResolve_foldl hc.triggers hr.triggers
  case merges =>
    intro m hm
    rcases List.mem_append.1 hm with hm | hm
    · exact hc.merges m hm
    · obtain ⟨m', hm', rfl⟩ := List.mem_map.1 hm
      exact ⟨(hr.merges m' hm').destination, (hr.merges m' hm').sources⟩

theorem mem_keys_triggers_add {c : RulesCode} {r : Rules} {event : Text} :
    event ∈ (c.add r).triggers.keys ↔ event ∈ r.events ∨ event ∈ c.triggers.keys := by
  have hstep (m : Keyed SwitchCode) (t : Trigger) (k : Text) :
      (addTrigger m t).contains k = true ↔ k = t.event ∨ m.contains k = true :=
    Keyed.contains_update m t.event _ k
  rw [Keyed.mem_keys_iff, Keyed.mem_keys_iff, add, Keyed.contains_foldl hstep]
  simp [Rules.events]

end RulesCode

namespace Code

/-- The rules that always hold, and those of each event block. -/
def allRules (c : Code) : List RulesCode := c.rules :: c.events.map EventCode.rules

/-- The events with triggers. -/
def eventNames (c : Code) : List Text := c.allRules.flatMap fun r => r.triggers.keys

theorem contains_services {overlay : Text} {d : Description} {v : Service}
    (h : v ∈ d.state.services) :
    (ofDescription overlay d).services.contains v.reference = true := by
  have hstep (m : Keyed (Keyed Json)) (v : Service) (k : Text) :
      (addService m v).contains k = true ↔ k = v.reference ∨ m.contains k = true :=
    Keyed.contains_insert m v.reference _ k
  exact (Keyed.contains_foldl hstep _ _ _).2 (.inl ⟨v, h, rfl⟩)

theorem mem_allRules {overlay : Text} {d : Description} {c : RulesCode} :
    c ∈ (ofDescription overlay d).allRules ↔
      c = RulesCode.empty.add d.bloom.rules ∨
        ∃ e ∈ d.bloom.events, c = RulesCode.empty.add e.rules := by
  simp [allRules, ofDescription, add, empty, EventBlock.code, RulesCode.empty, eq_comm]

theorem mem_eventNames {overlay : Text} {d : Description} {name : Text} :
    name ∈ (ofDescription overlay d).eventNames ↔ name ∈ d.bloom.definedEvents := by
  have hkeys (r : Rules) : name ∈ (RulesCode.empty.add r).triggers.keys ↔ name ∈ r.events := by
    rw [RulesCode.mem_keys_triggers_add]
    exact or_iff_left nofun
  simp [eventNames, mem_allRules, BloomBlock.definedEvents, or_and_right, exists_or, hkeys]

/-- The names in compiled code resolve: each rule names declared endpoints
only, with their services, conditions name events that some trigger switches,
and all declared names are distinct and proper. -/
theorem names_resolve_of_compile {overlay t : Text} {code : Code}
    (h : compile overlay t = .ok code) :
    ∃ d, Description.ofText t = .ok d ∧
      (∀ rules ∈ code.allRules, rules.Resolves d.state code.services) ∧
      (∀ e ∈ code.events, ∀ name ∈ Condition.namesIn e.condition, name ∈ code.eventNames) ∧
      d.state.names.Nodup ∧
      ∀ name ∈ d.state.names ++ code.eventNames, IsProperName name := by
  obtain ⟨d, hd, rfl⟩ := Except.map_eq_ok_iff.1 h
  obtain ⟨hstate, hbloom⟩ := Description.resolves_of_ofText hd
  have hrules : ∀ rules ∈ (ofDescription overlay d).allRules,
      rules.Resolves d.state (ofDescription overlay d).services := by
    intro rules hrules
    rcases mem_allRules.1 hrules with rfl | ⟨e, he, rfl⟩
    · exact RulesCode.resolves_add hstate (fun _ => contains_services) RulesCode.resolves_empty
        hbloom.rules
    · exact RulesCode.resolves_add hstate (fun _ => contains_services) RulesCode.resolves_empty
        (hbloom.events e he)
  refine ⟨d, hd, hrules, ?conditions, hstate.distinct, ?proper⟩
  case conditions =>
    intro e he name hname
    obtain ⟨block, hblock, rfl⟩ : ∃ block ∈ d.bloom.events, block.code = e := by
      simpa [ofDescription, add, empty] using he
    rw [EventBlock.code, Condition.namesIn_toJson (hbloom.trees block hblock)] at hname
    obtain ⟨l, hl, rfl⟩ := List.mem_map.1 hname
    exact mem_eventNames.2 (hbloom.defined block hblock l hl)
  case proper =>
    intro name hname
    rcases List.mem_append.1 hname with hname | hname
    · exact hstate.proper name hname
    · obtain ⟨rules, hmem, hkey⟩ := List.mem_flatMap.1 hname
      obtain ⟨c, hc⟩ := Option.isSome_iff_exists.1 (Keyed.mem_keys_iff.1 hkey)
      exact ((hrules rules hmem).triggers name c hc).1

/-- A link that holds while an event is on, with the trigger of the event. -/
def gated : Text := "state do
  @meter: discovery(type=\"meter\")
  @panel: discovery(type=\"panel\")
  scratch reading: @meter
  channel level: @panel
  channel alarm: @panel
end
bloom do
  level <~ reading
  high <+ level.trigger(30, count > 5, value > 10)
  high.on do
    alarm <~ merge(10, level)
  end
end".toList

set_option maxRecDepth 4000 in
/-- The names in the code of `gated` resolve. -/
theorem names_resolve_gated : ∃ code, compile [] gated = .ok code ∧
    ∃ d, Description.ofText gated = .ok d ∧
      (∀ rules ∈ code.allRules, rules.Resolves d.state code.services) ∧
      (∀ e ∈ code.events, ∀ name ∈ Condition.namesIn e.condition, name ∈ code.eventNames) ∧
      d.state.names.Nodup ∧
      ∀ name ∈ d.state.names ++ code.eventNames, IsProperName name := by
  have hok : (compile [] gated).toOption.isSome = true := by
    -- A list of characters costs the kernel less than the literal it comes from.
    rw [show gated = _ from String.toList_ofList]
    decide +kernel
  obtain ⟨code, h⟩ := Except.exists_ok_of_isSome hok
  exact ⟨code, h, names_resolve_of_compile h⟩

end Code

end Overlay
