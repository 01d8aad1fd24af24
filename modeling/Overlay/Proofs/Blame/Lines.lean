import Overlay.Proofs.Outline.Cut

/-!
Lines of units. A unit that is cut out of other lines keeps their numbers, so it can be
found among the lines of the whole text. The items of a unit, the header of a block and
its body are such runs.
-/

namespace Overlay

open Text

/-- Whether the lines of a unit are a run of other lines. -/
structure SourceUnit.StandsIn (lines : List (Nat × Text)) (u : SourceUnit) : Prop where
  nonempty : u.lines ≠ []
  run : u.numberedLines <:+: lines

theorem SourceUnit.StandsIn.mono {lines lines' : List (Nat × Text)} {u : SourceUnit}
    (h : u.StandsIn lines) (hrun : lines <:+: lines') : u.StandsIn lines' :=
  ⟨h.nonempty, h.run.trans hrun⟩

/-- The lines of a slice are cut out of those of the unit, whatever they hold. -/
theorem SourceUnit.isInfix_slice (u : SourceUnit) (start stop : Nat) :
    numberFrom (u.first + min start (min stop u.lines.length))
      ((u.lines.take (min stop u.lines.length)).drop (min start (min stop u.lines.length))) <:+:
        u.numberedLines := by
  rw [← numberFrom_drop, ← numberFrom_take, ← numberedLines]
  exact (List.drop_suffix _ _).isInfix.trans (List.take_prefix _ _).isInfix

namespace Item

variable {candidates : List Construct}

theorem header_standsIn {i : Item} {header : SourceUnit} (hne : i.unit.lines ≠ [])
    (h : i.header = .ok header) : header.StandsIn i.unit.numberedLines := by
  unfold Item.header at h
  split at h
  · have hlines := SourceUnit.numberedLines_slice h
    constructor
    case nonempty =>
      intro hnil
      rw [SourceUnit.numberedLines, hnil] at hlines
      have hlen := congrArg List.length hlines
      simp only [SourceUnit.numberedLines, SourceUnit.numberFrom, List.length_nil, List.drop_zero,
        List.length_take, SourceUnit.length_numberFrom] at hlen
      have hpos := List.length_pos_iff.2 hne
      omega
    case run =>
      rw [hlines]
      exact (List.drop_suffix _ _).isInfix.trans (List.take_prefix _ _).isInfix
  · cases h
    exact ⟨hne, List.infix_rfl⟩

theorem body_isInfix {i : Item} {body : SourceUnit} (h : i.body = .ok body) :
    body.numberedLines <:+: i.unit.numberedLines := by
  rw [SourceUnit.numberedLines_slice h]
  exact (List.drop_suffix _ _).isInfix.trans (List.take_prefix _ _).isInfix

/-- The items of a unit stand in its lines. -/
theorem standsIn_of_list {u : SourceUnit} {items : List Item} (h : list u candidates = .ok items)
    {i : Item} (hi : i ∈ items) : i.unit.StandsIn u.numberedLines := by
  obtain ⟨cs, hread⟩ := exists_isRead_of_mem h hi
  exact ⟨hread.holds.lines_ne_nil, (cutInto_of_list h).isInfix hi⟩

end Item

end Overlay
