import Overlay.Proofs.Outline.Cut
import Overlay.Proofs.Text.Joined

/-!
Slices of units. A slice is read again from its lines, and what makes this safe is that
each of these lines was read on its own when the unit was made: so a slice cannot fail,
and what it holds is a part of the content of the unit. Where a slice begins and ends is
brought into the range of the lines first, and from then on a slice is a `take` and a `drop`.
-/

namespace Overlay

open Text

/-- Two texts with a space between them, or the one that is not empty. -/
def Text.spaced (s t : Text) : Text :=
  if s.isEmpty then t else if t.isEmpty then s else s ++ ' ' :: t

theorem Content.texts_ne_nil {lines cs : List (Nat × Text)} (h : Content lines cs) :
    ∀ t ∈ texts cs, t ≠ [] := by
  induction h with
  | nil => nofun
  | blank _ _ ih => exact ih
  | line _ hne _ ih => exact List.forall_mem_cons.2 ⟨hne, ih⟩

theorem Content.intercalate_eq_nil_iff {lines cs : List (Nat × Text)} (h : Content lines cs) :
    [' '].intercalate (texts cs) = [] ↔ cs = [] := by
  have hne := h.texts_ne_nil
  match cs, hne with
  | [], _ => simp
  | [c], hne => simpa using hne
  | c :: d :: cs, _ => simp [List.intercalate_cons_cons]

/-- What two runs of lines hold is joined by a space, unless one of them holds nothing. -/
theorem Content.intercalate_append {lines lines' cs cs' : List (Nat × Text)} (h : Content lines cs)
    (h' : Content lines' cs') : [' '].intercalate (texts (cs ++ cs')) =
      spaced ([' '].intercalate (texts cs)) ([' '].intercalate (texts cs')) := by
  unfold spaced
  by_cases hcs : cs = []
  · simp [hcs]
  · rw [if_neg (by simpa using mt h.intercalate_eq_nil_iff.1 hcs)]
    by_cases hcs' : cs' = []
    · simp [hcs']
    · rw [if_neg (by simpa using mt h'.intercalate_eq_nil_iff.1 hcs'), texts_append,
        Text.intercalate_append (by simpa using hcs) (by simpa using hcs')]
      simp

namespace SourceUnit

/-- Whether a unit was made of lines, by themselves or as a whole text, and is no fragment. -/
def IsMade (u : SourceUnit) : Prop :=
  (∃ first lines, ofLines first lines = .ok u) ∨ ∃ t offset, ofText t offset = .ok u

theorem IsMade.exists_content {u : SourceUnit} (h : u.IsMade) :
    ∃ cs, Content u.numberedLines cs ∧ u.text = [' '].intercalate (texts cs) := by
  obtain ⟨first, lines, h⟩ : ∃ first lines, ofLines first lines = .ok u := by
    rcases h with h | ⟨t, offset, h⟩
    · exact h
    · exact ⟨offset + 1, t.lines, h⟩
  obtain ⟨cs, hcs, rfl⟩ := ofLines_eq_ok_iff.1 h
  exact ⟨cs, hcs, rfl⟩

variable {u : SourceUnit} {start stop : Nat}

/-- Bounds beyond the lines are those of the lines. -/
theorem slice_clamped (u : SourceUnit) (start stop : Nat) :
    u.slice (min start (min stop u.lines.length)) (min stop u.lines.length) =
      u.slice start stop := by
  simp only [slice]
  congr 2 <;> simp

theorem slice_of_le (hle : start ≤ stop) (hstop : stop ≤ u.lines.length) :
    u.slice start stop = ofLines (u.first + start) ((u.lines.take stop).drop start) := by
  simp only [slice, Nat.min_eq_left hstop, Nat.min_eq_left hle]

/-- A slice holds what its lines hold. -/
theorem slice_eq_ok_of_content (hle : start ≤ stop) (hstop : stop ≤ u.lines.length)
    {cs : List (Nat × Text)} (h : Content ((u.numberedLines.take stop).drop start) cs) :
    u.slice start stop =
      .ok ⟨u.first + start, (u.lines.take stop).drop start, [' '].intercalate (texts cs)⟩ := by
  rw [slice_of_le hle hstop, ofLines_eq_ok_iff]
  rw [numberedLines, numberFrom_take, numberFrom_drop] at h
  exact ⟨cs, h, rfl⟩

theorem IsMade.exists_slice_of_le (h : u.IsMade) (hle : start ≤ stop)
    (hstop : stop ≤ u.lines.length) : ∃ v, u.slice start stop = .ok v ∧
      v.first = u.first + start ∧ v.lines = (u.lines.take stop).drop start := by
  obtain ⟨cs, hcs, -⟩ := h.exists_content
  rw [← List.take_append_drop stop u.numberedLines] at hcs
  obtain ⟨ds, _, -, hds, -⟩ := hcs.of_append
  rw [← List.take_append_drop start (u.numberedLines.take stop)] at hds
  obtain ⟨_, es, -, -, hes⟩ := hds.of_append
  exact ⟨_, slice_eq_ok_of_content hle hstop hes, rfl, rfl⟩

/-- A slice of a slice is a slice, with its bounds counted from where the first one begins. -/
theorem slice_slice {v : SourceUnit} (hle : start ≤ stop) (hstop : stop ≤ u.lines.length)
    (hfirst : v.first = u.first + start) (hlines : v.lines = (u.lines.take stop).drop start)
    (c d : Nat) : v.slice c d = u.slice (start + c) (start + min d (stop - start)) := by
  have hlen : v.lines.length = stop - start := by
    rw [hlines, List.length_drop, List.length_take, Nat.min_eq_left hstop]
  rw [← slice_clamped v c d, hlen]
  -- With the bounds in range on both sides, only lines are left to compare.
  obtain ⟨d', hd'⟩ : ∃ d', d' = min d (stop - start) := ⟨_, rfl⟩
  have hdle : d' ≤ stop - start := hd' ▸ Nat.min_le_right _ _
  have hcle : min c d' ≤ d' := Nat.min_le_right _ _
  have hin : start + d' ≤ u.lines.length := by omega
  rw [← hd', ← slice_clamped u (start + c), Nat.min_eq_left hin, Nat.add_min_add_left,
    slice_of_le hcle (hlen ▸ hdle), slice_of_le (Nat.add_le_add_left hcle start) hin, hfirst,
    hlines, Nat.add_assoc]
  have hmin : min (start + d') stop = start + d' := by omega
  congr 1
  rw [List.take_drop, List.take_take, hmin, List.drop_drop]

/-- The text of a unit is that of two slices that meet. -/
theorem IsMade.text_eq_spaced (h : u.IsMade) (k : Nat) :
    ∃ v w, u.slice 0 k = .ok v ∧ u.slice k u.lines.length = .ok w ∧
      u.text = v.text.spaced w.text := by
  obtain ⟨cs, hcs, htext⟩ := h.exists_content
  have hk : min k u.lines.length ≤ u.lines.length := Nat.min_le_right _ _
  have hall : u.numberedLines.take u.lines.length = u.numberedLines := by
    rw [numberedLines, List.take_of_length_le (by simp)]
  rw [← List.take_append_drop (min k u.lines.length) u.numberedLines] at hcs
  obtain ⟨ds, es, rfl, hds, hes⟩ := hcs.of_append
  have hleft := slice_eq_ok_of_content (Nat.zero_le _) hk hds
  have hright := slice_eq_ok_of_content hk (Nat.le_refl _) (by rwa [hall])
  have hclamped := slice_clamped u k u.lines.length
  rw [Nat.min_self] at hclamped
  rw [← Nat.zero_min (min k u.lines.length), slice_clamped] at hleft
  rw [hclamped] at hright
  exact ⟨_, _, hleft, hright, by rw [htext, hds.intercalate_append hes]⟩

/-- A unit that was made of lines can be cut anywhere. Every slice of it is a unit, with the
lines between its bounds and their numbers; a slice of a slice is a slice of the unit; and
the text is made of the texts of two slices that meet, and has all its literals closed. -/
theorem slice_exact (h : u.IsMade) :
    (∀ start stop, ∃ v, u.slice start stop = .ok v ∧
      v.numberedLines = (u.numberedLines.take (min stop u.lines.length)).drop
        (min start (min stop u.lines.length))) ∧
    (∀ a b, a ≤ b → b ≤ u.lines.length → ∃ v, u.slice a b = .ok v ∧
      ∀ c d, v.slice c d = u.slice (a + c) (a + min d (b - a))) ∧
    (∀ k, ∃ v w, u.slice 0 k = .ok v ∧ u.slice k u.lines.length = .ok w ∧
      u.text = v.text.spaced w.text) ∧
    ∃ ss, u.text.quotes = .ok ss := by
  refine ⟨fun start stop => ?numbered, fun a b hle hb => ?composed, h.text_eq_spaced, ?closed⟩
  case numbered =>
    have hle : min start (min stop u.lines.length) ≤ min stop u.lines.length :=
      Nat.min_le_right _ _
    obtain ⟨v, hv, -⟩ := h.exists_slice_of_le hle (Nat.min_le_right _ _)
    exact ⟨v, (slice_clamped u start stop).symm.trans hv, numberedLines_slice hv⟩
  case composed =>
    obtain ⟨v, hv, hfirst, hlines⟩ := h.exists_slice_of_le hle hb
    exact ⟨v, hv, slice_slice hle hb hfirst hlines⟩
  case closed =>
    obtain ⟨cs, hcs, htext⟩ := h.exists_content
    obtain ⟨us, hus⟩ := hcs.exists_quoted_intercalate
    exact ⟨_, quotes_eq_ok_iff.2 ⟨us, htext ▸ hus, rfl⟩⟩

/-- The unit of three lines, with a comment, a blank line and a number sign in a literal. -/
def spread : SourceUnit where
  first := 5
  lines := ["c <~ s # sent".toList, [], "  .filter(x > \"#\")".toList]
  text := "c <~ s .filter(x > \"#\")".toList

/-- The slice of a slice reaches no further than the first one. -/
theorem slice_exact_spread :
    spread.IsMade ∧ ∃ v, spread.slice 0 2 = .ok v ∧ v.slice 1 9 = spread.slice 1 2 := by
  have hmade : spread.IsMade :=
    .inr ⟨"c <~ s # sent\n\n  .filter(x > \"#\")\n".toList, 4, by decide +kernel⟩
  obtain ⟨v, hv, hslices⟩ := (slice_exact hmade).2.1 0 2 (by decide) (by decide)
  exact ⟨hmade, v, hv, hslices 1 9⟩

end SourceUnit

end Overlay
