import Overlay.Proofs.Code.Integrity
import Overlay.Proofs.Keyed

/-!
Code of several descriptions. Each rule and each event block of the descriptions
has one entry in the code, in the order of the source: links, merges and events
are listed one after the other, and the triggers of an event are listed under its
name, by the direction of the switch. A service has the query of the last
description that declares it. So the code of two lists of descriptions is made
of the code of each.
-/

namespace Overlay

namespace SwitchCode

/-- The triggers for one direction. -/
def codes (c : SwitchCode) : Switch → List TriggerCode
  | .on => c.on
  | .off => c.off

@[ext] theorem ext_codes {a b : SwitchCode} (h : ∀ switch, a.codes switch = b.codes switch) :
    a = b := by
  obtain ⟨on, off⟩ := a
  obtain ⟨on', off'⟩ := b
  obtain rfl : on = on' := h .on
  obtain rfl : off = off' := h .off
  rfl

/-- Both lists of triggers, each behind the other. -/
def append (a b : SwitchCode) : SwitchCode := ⟨a.on ++ b.on, a.off ++ b.off⟩

@[simp] theorem codes_append (a b : SwitchCode) (switch : Switch) :
    (a.append b).codes switch = a.codes switch ++ b.codes switch := by cases switch <;> rfl

theorem append_assoc (a b c : SwitchCode) : (a.append b).append c = a.append (b.append c) := by
  ext1 switch
  simp

instance : Std.Associative append := ⟨append_assoc⟩

end SwitchCode

namespace Trigger

/-- The codes of the triggers that switch an event in one direction, in the order
of the source. -/
def codesOf (ts : List Trigger) (event : Text) (switch : Switch) : List TriggerCode :=
  (ts.filter fun t => t.event = event ∧ t.switch = switch).map code

@[simp] theorem codesOf_append (ts us : List Trigger) (event : Text) (switch : Switch) :
    codesOf (ts ++ us) event switch = codesOf ts event switch ++ codesOf us event switch := by
  rw [codesOf, List.filter_append, List.map_append]
  rfl

/-- What is kept under the name of an event, if some trigger switches it. -/
def switchCode? (ts : List Trigger) (event : Text) : Option SwitchCode :=
  if event ∈ ts.map Trigger.event then some ⟨codesOf ts event .on, codesOf ts event .off⟩
  else none

theorem codes_of_switchCode? {ts : List Trigger} {event : Text} {c : SwitchCode}
    (h : switchCode? ts event = some c) (switch : Switch) :
    c.codes switch = codesOf ts event switch := by
  unfold switchCode? at h
  split at h
  · cases h
    cases switch <;> rfl
  · cases h

theorem codesOf_eq_nil {ts : List Trigger} {event : Text} (h : event ∉ ts.map Trigger.event)
    (switch : Switch) : codesOf ts event switch = [] := by
  rw [codesOf, List.map_eq_nil_iff, List.filter_eq_nil_iff]
  intro t ht hevent
  exact h (List.mem_map.2 ⟨t, ht, (of_decide_eq_true hevent).1⟩)

theorem switchCode?_append (ts us : List Trigger) (event : Text) :
    switchCode? (ts ++ us) event =
      Option.merge SwitchCode.append (switchCode? ts event) (switchCode? us event) := by
  simp only [switchCode?, List.map_append, List.mem_append, codesOf_append]
  by_cases hts : event ∈ ts.map Trigger.event
  · by_cases hus : event ∈ us.map Trigger.event
    · simp [hts, hus, SwitchCode.append]
    · simp [hts, hus, codesOf_eq_nil hus]
  · by_cases hus : event ∈ us.map Trigger.event
    · simp [hts, hus, codesOf_eq_nil hts]
    · simp [hts, hus]

end Trigger

namespace RulesCode

open Trigger (codesOf switchCode?)

/-- A trigger stands behind those of its event that were kept before. -/
theorem find?_addTrigger (m : Keyed SwitchCode) (t : Trigger) (event : Text) :
    (addTrigger m t).find? event =
      Option.merge SwitchCode.append (m.find? event) (switchCode? [t] event) := by
  have hsingle : switchCode? [t] t.event = some (SwitchCode.empty.add t.switch t.code) := by
    rw [switchCode?, if_pos (by simp), Option.some.injEq]
    ext1 switch
    cases hswitch : t.switch <;> cases switch <;>
      simp [SwitchCode.codes, SwitchCode.add, SwitchCode.empty, codesOf, hswitch]
  rw [addTrigger, Keyed.find?_update]
  by_cases hevent : event = t.event
  · subst hevent
    rw [if_pos rfl, hsingle]
    cases m.find? t.event with
    | none => rfl
    | some c =>
        rw [Option.merge_some_some, Option.some.injEq]
        ext1 switch
        cases hswitch : t.switch <;> cases switch <;>
          simp [SwitchCode.codes, SwitchCode.add, SwitchCode.empty, SwitchCode.append]
  · have hnone : switchCode? [t] event = none := if_neg (by simpa using hevent)
    rw [if_neg hevent, hnone]
    cases m.find? event <;> rfl

/-- The triggers of an event stand behind those that were kept before. -/
theorem find?_foldl_addTrigger (ts : List Trigger) (m : Keyed SwitchCode) (event : Text) :
    (ts.foldl addTrigger m).find? event =
      Option.merge SwitchCode.append (m.find? event) (switchCode? ts event) := by
  induction ts generalizing m with
  | nil =>
      rw [List.foldl_nil]
      cases m.find? event <;> rfl
  | cons t ts ih =>
      have hsplit := Trigger.switchCode?_append [t] ts event
      rw [List.singleton_append] at hsplit
      rw [List.foldl_cons, ih, find?_addTrigger, hsplit]
      -- The first trigger is merged with those before it, or with those behind it.
      exact Std.Associative.assoc _ _ _

/-- Whether code holds the rules of some lists of rules, each once and in order. -/
structure Gathers (c : RulesCode) (rs : List Rules) : Prop where
  links : c.links = rs.flatMap fun r => r.transmissions.map Transmission.link
  merges : c.merges = rs.flatMap fun r => r.merges.map Merge.code
  events : ∀ event, event ∈ c.triggers.keys ↔ ∃ r ∈ rs, event ∈ r.events
  triggers : ∀ event kept, c.triggers.find? event = some kept → ∀ switch,
    kept.codes switch = codesOf (rs.flatMap Rules.triggers) event switch

theorem foldl_add (rs : List Rules) (c : RulesCode) : rs.foldl add c =
    { links := c.links ++ rs.flatMap fun r => r.transmissions.map Transmission.link
      triggers := (rs.flatMap Rules.triggers).foldl addTrigger c.triggers
      merges := c.merges ++ rs.flatMap fun r => r.merges.map Merge.code } := by
  induction rs generalizing c with
  | nil => simp
  | cons r rs ih => simp [ih, add]

theorem gathers_foldl_add (rs : List Rules) : (rs.foldl add empty).Gathers rs := by
  rw [foldl_add]
  have hfind (event : Text) :
      ((rs.flatMap Rules.triggers).foldl addTrigger .empty).find? event =
        switchCode? (rs.flatMap Rules.triggers) event := by
    rw [find?_foldl_addTrigger, Keyed.find?_empty]
    cases switchCode? (rs.flatMap Rules.triggers) event <;> rfl
  constructor
  case links => rfl
  case merges => rfl
  case events =>
    intro event
    rw [Keyed.mem_keys_iff, Keyed.contains]
    show (((rs.flatMap Rules.triggers).foldl addTrigger .empty).find? event).isSome = true ↔ _
    rw [hfind, switchCode?]
    split
    · next hmem =>
      obtain ⟨t, ht, rfl⟩ := List.mem_map.1 hmem
      obtain ⟨r, hr, ht⟩ := List.mem_flatMap.1 ht
      exact ⟨fun _ => ⟨r, hr, List.mem_map_of_mem ht⟩, fun _ => rfl⟩
    · next hnot =>
      refine iff_of_false Bool.false_ne_true ?_
      rintro ⟨r, hr, hevent⟩
      obtain ⟨t, ht, rfl⟩ := List.mem_map.1 hevent
      refine hnot ?_
      exact List.mem_map_of_mem (List.mem_flatMap.2 ⟨r, hr, ht⟩)
  case triggers =>
    intro event kept hkept switch
    exact Trigger.codes_of_switchCode? ((hfind event).symm.trans hkept) switch

/-- The rules of both, those of the first before those of the second. -/
def append (a b : RulesCode) : RulesCode :=
  { links := a.links ++ b.links
    triggers := a.triggers.unionWith SwitchCode.append b.triggers
    merges := a.merges ++ b.merges }

theorem foldl_add_append (rs rs' : List Rules) :
    (rs ++ rs').foldl add empty = (rs.foldl add empty).append (rs'.foldl add empty) := by
  rw [List.foldl_append, foldl_add rs', foldl_add rs', append]
  congr 1
  refine Keyed.ext_find? fun event => ?_
  rw [Keyed.find?_unionWith, find?_foldl_addTrigger, find?_foldl_addTrigger]
  show _ = Option.merge SwitchCode.append _ (Option.merge SwitchCode.append none _)
  cases switchCode? (rs'.flatMap Rules.triggers) event <;> rfl

end RulesCode

/-- Whether code is that of an event block. -/
structure EventCode.Renders (c : EventCode) (e : EventBlock) : Prop where
  condition : c.condition = e.condition.toJson
  rules : c.rules.Gathers [e.rules]

/-- Whether a description declares a service with a query. -/
def Description.Declares (d : Description) (reference : Text) (query : Keyed Json) : Prop :=
  ∃ s ∈ d.state.services, s.reference = reference ∧ s.query.toJson = query

namespace Code

/-- Whether code holds all that some descriptions say, each entry once and in
order, and each service as the last of them declares it. -/
structure Gathers (c : Code) (overlay : Text) (ds : List Description) : Prop where
  overlay : c.overlay = overlay
  rules : c.rules.Gathers (ds.map fun d => d.bloom.rules)
  events : List.Forall₂ EventCode.Renders c.events (ds.flatMap fun d => d.bloom.events)
  services : ∀ reference query, c.services.find? reference = some query ↔
    ∃ front d back, ds = front ++ d :: back ∧ d.Declares reference query ∧
      ∀ d' ∈ back, ∀ query', ¬d'.Declares reference query'

theorem foldl_add (ds : List Description) (c : Code) : ds.foldl add c =
    { overlay := c.overlay
      services := (ds.flatMap fun d => d.state.services).foldl addService c.services
      rules := (ds.map fun d => d.bloom.rules).foldl RulesCode.add c.rules
      events := c.events ++ ds.flatMap fun d => d.bloom.events.map EventBlock.code } := by
  induction ds generalizing c with
  | nil => simp
  | cons d ds ih => simp [ih, add]

/-- A service replaces those with its reference that were added before. -/
theorem find?_foldl_addService (ss : List Service) (m : Keyed (Keyed Json)) (reference : Text) :
    (ss.foldl addService m).find? reference =
      ((ss.reverse.find? (·.reference = reference)).map fun s => s.query.toJson).or
        (m.find? reference) := by
  induction ss generalizing m with
  | nil => rfl
  | cons s ss ih =>
      rw [List.foldl_cons, ih, addService, Keyed.find?_insert, List.reverse_cons,
        List.find?_append]
      cases ss.reverse.find? (·.reference = reference) with
      | some s' => rfl
      | none =>
          by_cases hreference : s.reference = reference
          · simp [hreference]
          · simp [hreference, Ne.symm hreference]

theorem nodup_references {ss : List Service} (h : (ss.map Service.name).Nodup) :
    (ss.map Service.reference).Nodup := by
  have hmap : ss.map Service.reference = (ss.map Service.name).map serviceReference := by
    rw [List.map_map]
    rfl
  rw [hmap]
  exact h.map fun _ _ heq => (List.cons.inj heq).2

/-- A service of a description with distinct names is found by its reference. -/
theorem find?_services_iff {s : StateBlock} (h : s.WellFormed) {reference : Text}
    {query : Keyed Json} :
    (s.services.reverse.find? (·.reference = reference)).map (fun v => v.query.toJson) =
        some query ↔
      ∃ v ∈ s.services, v.reference = reference ∧ v.query.toJson = query := by
  have hnodup : (s.services.reverse.map Service.reference).Nodup := by
    rw [List.map_reverse, List.nodup_reverse]
    exact nodup_references h.distinct.of_append_left
  rw [Option.map_eq_some_iff]
  constructor
  · rintro ⟨v, hv, hquery⟩
    obtain ⟨hmem, hreference⟩ := (find?_key_eq_some_iff hnodup).1 hv
    exact ⟨v, List.mem_reverse.1 hmem, hreference, hquery⟩
  · rintro ⟨v, hmem, hreference, hquery⟩
    exact ⟨v, (find?_key_eq_some_iff hnodup).2 ⟨List.mem_reverse.2 hmem, hreference⟩, hquery⟩

theorem find?_services_of_descriptions {ds : List Description}
    (h : ∀ d ∈ ds, d.state.WellFormed) (reference : Text) (query : Keyed Json) :
    ((ds.flatMap fun d => d.state.services).reverse.find? (·.reference = reference)).map
        (fun v => v.query.toJson) = some query ↔
      ∃ front d back, ds = front ++ d :: back ∧ d.Declares reference query ∧
        ∀ d' ∈ back, ∀ query', ¬d'.Declares reference query' := by
  induction ds generalizing query with
  | nil => simp
  | cons d ds ih =>
      have ih := fun query => ih (fun d' hd' => h d' (List.mem_cons_of_mem _ hd')) query
      have hfirst := @find?_services_iff _ (h d List.mem_cons_self) reference query
      rw [List.flatMap_cons, List.reverse_append, List.find?_append, Option.map_or]
      generalize hfound :
        ((ds.flatMap fun d => d.state.services).reverse.find? _).map _ = found at ih ⊢
      cases found with
      | some later =>
          -- A later description declares the service, so the first does not count.
          obtain ⟨front, e, back, rfl, he, hback⟩ := (ih later).1 rfl
          rw [Option.some_or, ih query]
          constructor
          · rintro ⟨front', e', back', hsplit, he', hback'⟩
            exact ⟨d :: front', e', back', congrArg (d :: ·) hsplit, he', hback'⟩
          · rintro ⟨front', e', back', hsplit, he', hback'⟩
            cases front' with
            | nil =>
                obtain ⟨-, rfl⟩ := List.cons.inj hsplit
                exact absurd he (hback' e (by simp) later)
            | cons d' front' =>
                exact ⟨front', e', back', (List.cons.inj hsplit).2, he', hback'⟩
      | none =>
          -- No later description declares the service, so what the first says counts.
          rw [Option.none_or, hfirst]
          constructor
          · intro hd
            refine ⟨[], d, ds, rfl, hd, fun d' hd' query' ⟨v, hv, hreference, _⟩ => ?_⟩
            have hnone := List.find?_eq_none.1 (Option.map_eq_none_iff.1 hfound) v
              (List.mem_reverse.2 (List.mem_flatMap.2 ⟨d', hd', hv⟩))
            exact hnone (decide_eq_true hreference)
          · rintro ⟨front', e', back', hsplit, he', hback'⟩
            cases front' with
            | nil =>
                obtain ⟨rfl, -⟩ := List.cons.inj hsplit
                exact he'
            | cons d' front' =>
                have hlater := (ih query).2
                  ⟨front', e', back', (List.cons.inj hsplit).2, he', hback'⟩
                cases hlater

theorem gathers_ofDescriptions {overlay : Text} {ds : List Description}
    (h : ∀ d ∈ ds, d.state.WellFormed) : (ofDescriptions overlay ds).Gathers overlay ds := by
  rw [ofDescriptions, foldl_add]
  constructor
  case overlay => rfl
  case rules => exact RulesCode.gathers_foldl_add _
  case events =>
    rw [← List.map_flatMap]
    show List.Forall₂ _ ((ds.flatMap fun d => d.bloom.events).map EventBlock.code) _
    rw [List.forall₂_map_left_iff]
    refine List.forall₂_same.2 fun e _ => ?_
    exact ⟨rfl, RulesCode.gathers_foldl_add [e.rules]⟩
  case services =>
    intro reference query
    rw [← find?_services_of_descriptions h]
    show ((ds.flatMap fun d => d.state.services).foldl addService .empty).find? reference = _ ↔ _
    rw [find?_foldl_addService, Keyed.find?_empty, Option.or_none]

/-- What both codes hold, that of the first before that of the second; a service
is as in the second, if it has it. -/
def append (a b : Code) : Code :=
  { overlay := a.overlay
    services := a.services.unionWith (fun _ query => query) b.services
    rules := a.rules.append b.rules
    events := a.events ++ b.events }

theorem ofDescriptions_append (overlay : Text) (ds ds' : List Description) :
    ofDescriptions overlay (ds ++ ds') =
      (ofDescriptions overlay ds).append (ofDescriptions overlay ds') := by
  simp only [ofDescriptions, foldl_add, append, List.flatMap_append, List.map_append]
  congr 1
  case e_services =>
    refine Keyed.ext_find? fun reference => ?_
    rw [List.foldl_append, Keyed.find?_unionWith, find?_foldl_addService,
      find?_foldl_addService (ds'.flatMap _) (empty overlay).services]
    show _ = Option.merge _ _ (Option.or _ none)
    generalize (ds.flatMap _).foldl addService _ = m
    cases m.find? reference <;> cases (ds'.flatMap _).reverse.find? _ <;> rfl
  case e_rules => exact RulesCode.foldl_add_append _ _

/-- The code of descriptions that were read holds each of their rules and event
blocks once and in order, and each service as it was declared last; wherever the
list of descriptions is cut, it is made of the code of both parts. -/
theorem gathers_of_mapM_ofText {overlay : Text} {ts : List Text} {ds : List Description}
    (h : ts.mapM Description.ofText = .ok ds) : (ofDescriptions overlay ds).Gathers overlay ds ∧
      ∀ front back, ds = front ++ back → ofDescriptions overlay ds =
        (ofDescriptions overlay front).append (ofDescriptions overlay back) := by
  constructor
  · refine gathers_ofDescriptions fun d hd => ?_
    obtain ⟨t, -, ht⟩ := Except.exists_of_mem_mapM h hd
    exact (Description.resolves_of_ofText ht).1
  · rintro front back rfl
    exact ofDescriptions_append overlay front back

/-- A description with a trigger, of an event that another description switches
as well. -/
def daily : Text := ['\n'].intercalate ([
  "state do",
  "  @meter: discovery(type=\"meter\")",
  "  scratch reading: @meter",
  "  channel level: @meter",
  "end",
  "bloom do",
  "  level <~ reading",
  "  high <+ level.trigger(30, count > 5, value > 10)",
  "end"].map String.toList)

def nightly : Text := ['\n'].intercalate ([
  "state do",
  "  @meter: discovery(type=\"spare\")",
  "  scratch reading: @meter",
  "  channel level: @meter",
  "end",
  "bloom do",
  "  high <- level.trigger(60, count < 1, value > 10)",
  "  high <+ level.trigger(60, count > 9, value > 10)",
  "  high.on do",
  "    level <~ reading",
  "  end",
  "end"].map String.toList)

/-- The code of both descriptions holds three triggers of the event. -/
theorem gathers_daily_nightly : ∃ ds, [daily, nightly].mapM Description.ofText = .ok ds ∧
    ((ofDescriptions [] ds).rules.triggers.find? "high".toList).map
      (fun kept => (kept.on.length, kept.off.length)) = some (2, 1) ∧
    (ofDescriptions [] ds).Gathers [] ds ∧
    ∀ front back, ds = front ++ back → ofDescriptions [] ds =
      (ofDescriptions [] front).append (ofDescriptions [] back) := by
  have hcount : ([daily, nightly].mapM Description.ofText).toOption.map (fun ds =>
      ((ofDescriptions [] ds).rules.triggers.find? "high".toList).map
        fun kept => (kept.on.length, kept.off.length)) = some (some (2, 1)) := by
    -- Lists of characters cost the kernel less than the literals they come from.
    simp only [daily, nightly, List.map_cons, List.map_nil]
    repeat rw [String.toList_ofList]
    decide +kernel
  obtain ⟨ds, h, hkept⟩ := Except.exists_ok_of_map hcount
  exact ⟨ds, h, hkept, gathers_of_mapM_ofText h⟩

end Code

end Overlay
