import Overlay.Description
import Overlay.Proofs.Condition.Reading
import Overlay.Proofs.Keyed
import Overlay.Proofs.Rule.Resolution

/-!
Descriptions that were read. The endpoints that the rules name, at the top and
in event blocks, are declared in the state block, and the events that a
condition names are switched by some trigger.
-/

namespace Overlay

namespace EventBlock

theorem resolves_of_ofItem {s : StateBlock} {i : Item} {e : EventBlock}
    (h : ofItem s i = .ok e) : e.rules.Resolves s := by
  simp only [ofItem, Except.bind_eq_ok_iff, Except.pure_eq_ok_iff] at h
  obtain ⟨header, -, condition, -, body, -, is, -, rs, hrs, rfl⟩ := h
  refine Rules.resolves_ofList fun r hr => ?_
  obtain ⟨i, -, hi⟩ := Except.exists_of_mem_mapM hrs hr
  exact Rule.resolves_of_ofItem hi

theorem isTree_of_ofItem {s : StateBlock} {i : Item} {e : EventBlock}
    (h : ofItem s i = .ok e) : e.condition.IsTree := by
  simp only [ofItem, Except.bind_eq_ok_iff, Except.pure_eq_ok_iff] at h
  obtain ⟨header, -, condition, hcondition, body, -, is, -, rs, -, rfl⟩ := h
  rw [SourceUnit.locate_eq_ok_iff, readHeader] at hcondition
  split at hcondition
  · cases hcondition
  · exact Condition.isTree_of_ofText hcondition

end EventBlock

/-- Whether the rules of a block resolve and its events are defined. -/
structure BloomBlock.Resolves (s : StateBlock) (b : BloomBlock) : Prop where
  rules : b.rules.Resolves s
  events : ∀ e ∈ b.events, e.rules.Resolves s
  trees : ∀ e ∈ b.events, e.condition.IsTree
  defined : ∀ e ∈ b.events, ∀ l ∈ e.condition.leaves, l.dataName ∈ b.definedEvents

namespace Clause

theorem ofItem_of_rule? {s : StateBlock} {i : Item} {c : Clause} {r : Rule}
    (h : ofItem s i = .ok c) (hr : c.rule? = some r) : Rule.ofItem s i = .ok r := by
  cases ofItem_eq_ok_iff.1 h with
  | event _ _ => cases hr
  | rule _ hread =>
      cases hr
      exact hread

theorem ofItem_of_event? {s : StateBlock} {i : Item} {c : Clause} {e : EventBlock}
    (h : ofItem s i = .ok c) (he : c.event? = some e) : EventBlock.ofItem s i = .ok e := by
  cases ofItem_eq_ok_iff.1 h with
  | event _ hread =>
      cases he
      exact hread
  | rule _ _ => cases he

theorem construct_of_event? {s : StateBlock} {i : Item} {c : Clause} {e : EventBlock}
    (h : ofItem s i = .ok c) (he : c.event? = some e) : i.construct = .eventBlock := by
  cases ofItem_eq_ok_iff.1 h with
  | event hc _ => exact hc
  | rule _ _ => cases he

end Clause

namespace BloomBlock

/-- Each event block was read from an item of the block. -/
theorem exists_item_of_mem_events {s : StateBlock} {i : Item} {b : BloomBlock} {e : EventBlock}
    (h : ofItem s i = .ok b) (he : e ∈ b.events) :
    ∃ j : Item, j.construct = .eventBlock ∧ EventBlock.ofItem s j = .ok e := by
  simp only [ofItem, Except.bind_eq_ok_iff, Except.pure_eq_ok_iff] at h
  obtain ⟨body, -, is, -, cs, hcs, _, -, rfl⟩ := h
  obtain ⟨c, hc, hview⟩ := List.mem_filterMap.1 he
  obtain ⟨j, -, hj⟩ := Except.exists_of_mem_mapM hcs hc
  exact ⟨j, Clause.construct_of_event? hj hview, Clause.ofItem_of_event? hj hview⟩

theorem defined_of_checkEvent {b : BloomBlock} {e : EventBlock} {x : Unit}
    (h : b.checkEvent e = .ok x) : ∀ l ∈ e.condition.leaves, l.dataName ∈ b.definedEvents := by
  intro l hl
  unfold checkEvent at h
  split at h
  · cases h
  · next hnone =>
    have hname : l.dataName ∈ e.condition.dataNames := Keyed.mem_distinct.2 (List.mem_map_of_mem hl)
    simpa using List.find?_eq_none.1 hnone _ hname

theorem resolves_of_ofItem {s : StateBlock} {i : Item} {b : BloomBlock}
    (h : ofItem s i = .ok b) : b.Resolves s := by
  have hevents : ∀ e ∈ b.events, ∃ j, EventBlock.ofItem s j = .ok e := fun e he =>
    (exists_item_of_mem_events h he).imp fun _ hj => hj.2
  simp only [ofItem, Except.bind_eq_ok_iff, Except.pure_eq_ok_iff] at h
  obtain ⟨body, -, is, -, cs, hcs, _, hchecks, rfl⟩ := h
  constructor
  case rules =>
    refine Rules.resolves_ofList fun r hr => ?_
    obtain ⟨c, hc, hview⟩ := List.mem_filterMap.1 hr
    obtain ⟨j, -, hj⟩ := Except.exists_of_mem_mapM hcs hc
    exact Rule.resolves_of_ofItem (Clause.ofItem_of_rule? hj hview)
  case events =>
    intro e he
    obtain ⟨j, hj⟩ := hevents e he
    exact EventBlock.resolves_of_ofItem hj
  case trees =>
    intro e he
    obtain ⟨j, hj⟩ := hevents e he
    exact EventBlock.isTree_of_ofItem hj
  case defined =>
    intro e he
    exact defined_of_checkEvent (Except.forM_eq_ok_iff.1 hchecks e he)

end BloomBlock

namespace Description

/-- A description that was read has a well-formed state block, in which its
rules resolve. -/
theorem resolves_of_ofText {t : Text} {d : Description} (h : ofText t = .ok d) :
    d.state.WellFormed ∧ d.bloom.Resolves d.state := by
  simp only [ofText, Except.bind_eq_ok_iff, Except.pure_eq_ok_iff] at h
  obtain ⟨u, -, is, -, stateItem, -, bloomItem, -, state, hstate, bloom, hbloom, rfl⟩ := h
  exact ⟨StateBlock.wellFormed_of_ofItem hstate, BloomBlock.resolves_of_ofItem hbloom⟩

end Description

end Overlay
