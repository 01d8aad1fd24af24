import Overlay.Proofs.Code.Gathering
import Overlay.Proofs.Relocation
import Overlay.Proofs.Reorder.Order
import Overlay.Proofs.Rule.Reading

/-!
Rules in another order. The code lists transmissions, merges and event blocks, and
for each event the triggers of each direction, in the order of the source; rules
that keep these orders have the same code. What a rule is read as depends on a
state block only through the endpoints that are found in it by name.
-/

namespace Overlay

/-- The lists of the code in which the order of the source counts. -/
inductive Series
  | transmissions
  | merges
  | events
  | triggers (event : Text) (switch : Switch)
  deriving DecidableEq

/-- The series to which an item belongs; the order of declarations does not
count. -/
def Item.series? (i : Item) : Option Series :=
  match i.construct with
  | .transmission => some .transmissions
  | .merge => some .merges
  | .eventBlock => some .events
  | .trigger => (Trigger.head? i.unit.text).map fun head => .triggers head.1 head.2.1
  | _ => none

def Rule.series : Rule → Series
  | transmission _ => .transmissions
  | merge _ => .merges
  | trigger t => .triggers t.event t.switch

def Clause.series : Clause → Series
  | rule r => r.series
  | event _ => .events

theorem Rule.series_of_ofItem {s : StateBlock} {i : Item} {r : Rule} (h : ofItem s i = .ok r) :
    some r.series = i.series? := by
  cases ofItem_eq_ok_iff.1 h with
  | transmission hc _ =>
      rw [Item.series?, hc]
      rfl
  | trigger hc ht =>
      obtain ⟨rest, call, args, count, text, hhead, -⟩ := Trigger.ofUnit_eq_ok_iff.1 ht
      rw [Item.series?, hc, hhead]
      rfl
  | merge hc _ =>
      rw [Item.series?, hc]
      rfl

theorem Clause.series_of_ofItem {s : StateBlock} {i : Item} {c : Clause}
    (h : ofItem s i = .ok c) : some c.series = i.series? := by
  cases ofItem_eq_ok_iff.1 h with
  | event hc _ =>
      rw [Item.series?, hc]
      rfl
  | rule _ hr => exact Rule.series_of_ofItem hr

namespace Rules

open Trigger (codesOf)

/-- Whether two groups of rules have the same code. -/
structure SameCode (r r' : Rules) : Prop where
  links : r'.transmissions.map Transmission.link = r.transmissions.map Transmission.link
  merges : r'.merges.map Merge.code = r.merges.map Merge.code
  events : ∀ event, event ∈ r'.events ↔ event ∈ r.events
  triggers : ∀ event switch, codesOf r'.triggers event switch = codesOf r.triggers event switch

theorem SameCode.trans {r r' r'' : Rules} (h : r.SameCode r') (h' : r'.SameCode r'') :
    r.SameCode r'' where
  links := h'.links.trans h.links
  merges := h'.merges.trans h.merges
  events event := (h'.events event).trans (h.events event)
  triggers event switch := (h'.triggers event switch).trans (h.triggers event switch)

/-- The code of a trigger, if it switches an event in one direction. -/
def triggerCode? (event : Text) (switch : Switch) (t : Trigger) : Option TriggerCode :=
  if t.event = event ∧ t.switch = switch then some t.code else none

theorem codesOf_eq_filterMap (ts : List Trigger) (event : Text) (switch : Switch) :
    codesOf ts event switch = ts.filterMap (triggerCode? event switch) := by
  induction ts with
  | nil => rfl
  | cons t ts ih =>
      rw [List.filterMap_cons, ← ih, codesOf, triggerCode?]
      by_cases ht : t.event = event ∧ t.switch = switch
      · rw [if_pos ht, List.filter_cons, if_pos (decide_eq_true ht)]
        rfl
      · rw [if_neg ht, List.filter_cons, if_neg (by rwa [decide_eq_true_iff])]
        rfl

theorem sameCode_of_sameOrder {rs rs' : List Rule}
    (h : SameOrder (fun r => some r.series) rs rs') : (ofList rs).SameCode (ofList rs') := by
  constructor
  case links =>
    refine congrArg (List.map Transmission.link) (h.filterMap_eq (k := .transmissions) ?_)
    rintro (t | t | m) z hz <;> cases hz
    rfl
  case merges =>
    refine congrArg (List.map Merge.code) (h.filterMap_eq (k := .merges) ?_)
    rintro (t | t | m) z hz <;> cases hz
    rfl
  case events =>
    intro event
    exact (((h.perm.filterMap Rule.trigger?).map Trigger.event).mem_iff).symm
  case triggers =>
    intro event switch
    show codesOf (rs'.filterMap Rule.trigger?) event switch =
      codesOf (rs.filterMap Rule.trigger?) event switch
    rw [codesOf_eq_filterMap, codesOf_eq_filterMap, List.filterMap_filterMap,
      List.filterMap_filterMap]
    refine h.filterMap_eq (k := .triggers event switch) fun {r z} hz => ?_
    obtain ⟨t, ht, hz⟩ := Option.bind_eq_some_iff.1 hz
    obtain ⟨⟨rfl, rfl⟩, -⟩ := Option.ite_none_right_eq_some.1 hz
    cases r <;> cases ht
    rfl

theorem Moved.sameCode {r r' : Rules} (h : r.Moved r') : r.SameCode r' := by
  constructor
  case links =>
    refine map_eq_of_forall₂ h.transmissions ?_
    rintro t _ ⟨u, rfl⟩
    rfl
  case merges =>
    refine map_eq_of_forall₂ h.merges ?_
    rintro m _ ⟨u, rfl⟩
    rfl
  case events =>
    intro event
    rw [h.events]
  case triggers =>
    intro event switch
    rw [codesOf_eq_filterMap, codesOf_eq_filterMap]
    have hcodes : List.Forall₂ Eq (r.triggers.filterMap (triggerCode? event switch))
        (r'.triggers.filterMap (triggerCode? event switch)) := by
      refine forall₂_filterMap h.triggers ?_
      rintro t _ ⟨u, rfl⟩
      show Option.Rel Eq (triggerCode? event switch t) (triggerCode? event switch t)
      cases triggerCode? event switch t with
      | none => exact .none
      | some c => exact .some rfl
    exact (List.forall₂_eq_eq_eq ▸ hcodes).symm

theorem SameCode.code {r r' : Rules} (h : r.SameCode r') :
    RulesCode.empty.add r' = RulesCode.empty.add r := by
  have htriggers : r'.triggers.foldl RulesCode.addTrigger .empty =
      r.triggers.foldl RulesCode.addTrigger .empty := by
    refine Keyed.ext_find? fun event => ?_
    have hmem : event ∈ r'.triggers.map Trigger.event ↔ event ∈ r.triggers.map Trigger.event :=
      h.events event
    rw [RulesCode.find?_foldl_addTrigger, RulesCode.find?_foldl_addTrigger, Trigger.switchCode?,
      Trigger.switchCode?, h.triggers, h.triggers]
    simp only [hmem]
  rw [RulesCode.add, RulesCode.add, h.links, h.merges]
  congr 1

end Rules

end Overlay
