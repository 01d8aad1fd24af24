import Overlay.Proofs.Break.Blocks
import Overlay.Proofs.Condition.State
import Overlay.Proofs.Description
import Overlay.Proofs.Outline.Content

/-!
Guards of event blocks. The header line of an event block is read as a condition of any
form, and of its leaves only the names are checked. So a guard is one on the states of
events exactly if it was written as one, and this is not enforced.
-/

namespace Overlay

open Text

/-! The header line. -/

/-- What stands before the `do` of a text without blanks in front is a guard that does not
end with a blank. -/
theorem Text.beforeDo?_eq_some_iff_of_startsSolid {t guard : Text} (hstart : StartsSolid t) :
    beforeDo? t = some guard ↔ guard ≠ [] ∧ EndsSolid guard ∧ '\n' ∉ guard ∧
      ∃ b : Text, b ≠ [] ∧ b.allBlank = true ∧ t = guard ++ b ++ ['d', 'o'] := by
  rw [beforeDo?_eq_some_iff]
  constructor
  · rintro ⟨hne, hline, hshape, b, hbne, hb, rfl⟩
    refine ⟨hne, ?_, hline, b, hbne, hb, rfl⟩
    rcases hshape with hend | ⟨c, rfl⟩
    · exact hend
    · exact (@endsSolid_concat c []).2 (startsSolid_cons.1 hstart)
  · rintro ⟨hne, hend, hline, b, hbne, hb, rfl⟩
    exact ⟨hne, hline, .inl hend, b, hbne, hb, rfl⟩

theorem Text.startsSolid_of_stripComment {line t : Text} (h : line.stripComment = .ok t) :
    StartsSolid t := by
  obtain ⟨ts, -, rfl⟩ := stripComment_eq_ok_iff.1 h
  obtain ⟨-, -, -, -, -, hstart, -⟩ := exists_trim line.beforeComment
  exact hstart

/-- Whether a line holds a guard, blanks and the `do`, apart from blanks around them and a
comment. -/
def Text.Guards (guard line : Text) : Prop :=
  guard ≠ [] ∧ guard.trim = guard ∧ '\n' ∉ guard ∧
    ∃ b : Text, b ≠ [] ∧ b.allBlank = true ∧ line.stripComment = .ok (guard ++ b ++ ['d', 'o'])

theorem Text.Guards.beforeDo? {guard line : Text} (h : Text.Guards guard line) :
    ∃ t, line.stripComment = .ok t ∧ Text.beforeDo? t = some guard := by
  obtain ⟨hne, htrim, hfeed, b, hbne, hb, hline⟩ := h
  exact ⟨_, hline, (beforeDo?_eq_some_iff_of_startsSolid (startsSolid_of_stripComment hline)).2
    ⟨hne, (trim_eq_self_iff.1 htrim).2, hfeed, b, hbne, hb, rfl⟩⟩

/-- A line has one guard only. -/
theorem Text.Guards.unique {guard guard' line : Text} (h : Text.Guards guard line)
    (h' : Text.Guards guard' line) : guard = guard' := by
  obtain ⟨t, hline, hguard⟩ := h.beforeDo?
  obtain ⟨t', hline', hguard'⟩ := h'.beforeDo?
  rw [hline] at hline'
  cases hline'
  exact Option.some.inj (hguard.symm.trans hguard')

namespace EventBlock

/-- The header is the first line of the block, and its condition that of the guard. -/
theorem readHeader_header_iff {i : Item} (hc : i.construct = .eventBlock) {c : Condition} :
    (∃ header, i.header = .ok header ∧ readHeader header.text = .ok c) ↔
      ∃ line rest guard, i.unit.lines = line :: rest ∧ Text.Guards guard line ∧
        Condition.ofText guard = .ok c := by
  have hheader : i.header = i.unit.slice 0 1 := by simp [Item.header, hc, Construct.isBlock]
  rw [hheader]
  constructor
  · rintro ⟨header, hslice, hread⟩
    unfold readHeader at hread
    split at hread
    · cases hread
    · next part hpart =>
      cases hlines : i.unit.lines with
      -- A unit without lines has an empty text, which is no header.
      | nil =>
          have hempty : header.text = [] := by
            simp [SourceUnit.slice, hlines, SourceUnit.ofLines, SourceUnit.strippedFrom] at hslice
            simp [← hslice]
          rw [hempty] at hpart
          cases hpart
      | cons line rest =>
          rw [SourceUnit.slice_first hlines, SourceUnit.ofLines_singleton] at hslice
          obtain ⟨t, hline, rfl⟩ := hslice
          have hstart := startsSolid_of_stripComment hline
          obtain ⟨hne, hend, hfeed, b, hbne, hb, rfl⟩ :=
            (beforeDo?_eq_some_iff_of_startsSolid hstart).1 hpart
          have htrim : part.trim = part :=
            trim_eq_self_iff.2 ⟨Condition.startsSolid_of_append
              (Condition.startsSolid_of_append hstart), hend⟩
          rw [htrim] at hread
          exact ⟨line, rest, part, rfl, ⟨hne, htrim, hfeed, b, hbne, hb, hline⟩, hread⟩
  · rintro ⟨line, rest, guard, hlines, hguards, hread⟩
    obtain ⟨t, hline, hpart⟩ := hguards.beforeDo?
    refine ⟨⟨i.unit.first, [line], t⟩, ?_, ?_⟩
    · rw [SourceUnit.slice_first hlines, SourceUnit.ofLines_singleton]
      exact ⟨_, hline, rfl⟩
    · simpa only [readHeader, hpart, hguards.2.1] using hread

/-- Whether the body of a block is cut into rules, and each of them is read. -/
def HasRules (s : StateBlock) (i : Item) (r : Rules) : Prop :=
  ∃ body items rules, i.body = .ok body ∧ Item.list body Construct.rules = .ok items ∧
    items.mapM (Rule.ofItem s) = .ok rules ∧ r = .ofList rules

/-- An event block is read from the guard on its first line and from the rules in its body. -/
theorem ofItem_eq_ok_iff {s : StateBlock} {i : Item} {e : EventBlock}
    (hc : i.construct = .eventBlock) : ofItem s i = .ok e ↔
      (∃ line rest guard, i.unit.lines = line :: rest ∧ Text.Guards guard line ∧
        Condition.ofText guard = .ok e.condition) ∧ HasRules s i e.rules ∧ e.unit = i.unit := by
  rw [← readHeader_header_iff hc]
  simp only [ofItem, Except.bind_eq_ok_iff, Except.pure_eq_ok_iff, SourceUnit.locate_eq_ok_iff]
  constructor
  · rintro ⟨header, hheader, condition, hread, body, hbody, items, hitems, rules, hrules, rfl⟩
    exact ⟨⟨header, hheader, hread⟩, ⟨body, items, rules, hbody, hitems, hrules, rfl⟩, rfl⟩
  · rintro ⟨⟨header, hheader, hread⟩, ⟨body, items, rules, hbody, hitems, hrules, heq⟩, hunit⟩
    refine ⟨header, hheader, e.condition, hread, body, hbody, items, hitems, rules, hrules, ?_⟩
    rw [← heq, ← hunit]

end EventBlock

/-! Guards on states. -/

namespace Description

/-- In a description that was read the leaves of a guard name defined events. They all ask
for the states of these events exactly if the text of the guard is one of a condition on
states, and no more than this is checked. -/
theorem guards_ask_states_iff {t : Text} {d : Description} (h : ofText t = .ok d) :
    ∀ e ∈ d.bloom.events, (∀ l ∈ e.condition.leaves, l.dataName ∈ d.bloom.definedEvents) ∧
      ∃ line rest guard, e.unit.lines = line :: rest ∧ Text.Guards guard line ∧
        Condition.Renders .whole e.condition guard ∧
        ((∀ l ∈ e.condition.leaves, l.test.AsksState) ↔
          Condition.Written Leaf.IsState .whole e.condition guard) := by
  intro e he
  refine ⟨(resolves_of_ofText h).2.defined e he, ?_⟩
  simp only [ofText, Except.bind_eq_ok_iff, Except.pure_eq_ok_iff] at h
  obtain ⟨u, -, is, -, stateItem, -, bloomItem, -, state, -, bloom, hbloom, rfl⟩ := h
  obtain ⟨j, hj, hread⟩ := BloomBlock.exists_item_of_mem_events hbloom he
  obtain ⟨⟨line, rest, guard, hlines, hguards, hcondition⟩, -, hunit⟩ :=
    (EventBlock.ofItem_eq_ok_iff hj).1 hread
  have hrenders := (Condition.ofText_eq_ok_iff_renders hguards.2.1).1 hcondition
  exact ⟨line, rest, guard, hunit ▸ hlines, hguards, hrenders, hrenders.forall_asksState_iff⟩

/-- A description with one event and an event block with a guard. -/
def guardedBy (guard : Text) : Text :=
  "state do
@a: discovery()
channel c: @a
end
bloom do
ev <+ c.trigger(1, count > 0, x > 0)
".toList ++ guard ++ " do
end
end".toList

/-- The conditions of the event blocks of a description that is read. -/
def guards? (t : Text) : Option (List Condition) :=
  (ofText t).toOption.map fun d => d.bloom.events.map EventBlock.condition

theorem exists_of_guards? {t : Text} {cs : List Condition} (h : guards? t = some cs) :
    ∃ d, ofText t = .ok d ∧ d.bloom.events.map EventBlock.condition = cs :=
  Except.exists_ok_of_map h

theorem guards_ask_states_not_off : ∃ d,
    ofText (guardedBy "ev.on||not ev == \"off\"".toList) = .ok d ∧ ∀ e ∈ d.bloom.events,
      ∃ guard, Condition.Written Leaf.IsState .whole e.condition guard := by
  have hread : guards? (guardedBy "ev.on||not ev == \"off\"".toList) = some [.any
      [.leaf ⟨"ev".toList, .compare .eq (.string "on".toList)⟩,
        .leaf ⟨"ev".toList, .negation (.compare .eq (.string "off".toList))⟩]] := by
    decide +kernel
  obtain ⟨d, hd, hconditions⟩ := exists_of_guards? hread
  refine ⟨d, hd, fun e he => ?_⟩
  obtain ⟨-, _, _, guard, -, -, -, hiff⟩ := guards_ask_states_iff hd e he
  refine ⟨guard, hiff.1 ?_⟩
  have hcondition := List.mem_map_of_mem (f := EventBlock.condition) he
  rw [hconditions] at hcondition
  rw [List.mem_singleton.1 hcondition]
  simp only [Condition.leaves, Condition.leavesOf]
  intro l hl
  rcases List.mem_cons.1 hl with rfl | hl
  · exact .state (.inl rfl)
  · rw [List.mem_singleton.1 hl]
    exact .negation (.state (.inr rfl))

/-- The guard compares the event with a number, which is no state. -/
theorem guard_compares_with_number : ∃ d, ofText (guardedBy "ev == 1".toList) = .ok d ∧
    ∃ e ∈ d.bloom.events, ∃ l ∈ e.condition.leaves, ¬ l.test.AsksState := by
  have hread : guards? (guardedBy "ev == 1".toList) =
      some [.leaf ⟨"ev".toList, .compare .eq (.integer 1)⟩] := by decide +kernel
  obtain ⟨d, hd, hconditions⟩ := exists_of_guards? hread
  refine ⟨d, hd, ?_⟩
  have hmem := List.mem_singleton_self (Condition.leaf ⟨"ev".toList, .compare .eq (.integer 1)⟩)
  rw [← hconditions] at hmem
  obtain ⟨e, he, hcondition⟩ := List.mem_map.1 hmem
  refine ⟨e, he, ⟨"ev".toList, .compare .eq (.integer 1)⟩, ?_, nofun⟩
  rw [hcondition]
  exact List.mem_singleton_self _

end Description

end Overlay
