import Overlay.Proofs.Outcome
import Overlay.Proofs.Text.Intercalate
import Overlay.Source.Unit
import Mathlib.Data.List.Nodup

/-!
Content of lines. Of numbered lines only those count that hold more than blanks
and a comment; the content of lines is what these hold, with their numbers. The
text of a unit is made of its content alone.
-/

namespace Overlay

open Text

/-- Lines of source, and what they hold without comments and outer blanks. -/
inductive Content : List (Nat × Text) → List (Nat × Text) → Prop
  | nil : Content [] []
  | blank {number : Nat} {line : Text} {lines cs : List (Nat × Text)} :
      line.stripComment = .ok [] → Content lines cs → Content ((number, line) :: lines) cs
  | line {number : Nat} {line t : Text} {lines cs : List (Nat × Text)} :
      line.stripComment = .ok t → t ≠ [] → Content lines cs →
      Content ((number, line) :: lines) ((number, t) :: cs)

/-- What content says, without the numbers. -/
def texts (cs : List (Nat × Text)) : List Text := cs.map Prod.snd

@[simp] theorem texts_nil : texts [] = [] := rfl

@[simp] theorem texts_cons (c : Nat × Text) (cs : List (Nat × Text)) :
    texts (c :: cs) = c.2 :: texts cs := rfl

@[simp] theorem texts_append (cs ds : List (Nat × Text)) :
    texts (cs ++ ds) = texts cs ++ texts ds := List.map_append

@[simp] theorem texts_eq_nil_iff {cs : List (Nat × Text)} : texts cs = [] ↔ cs = [] :=
  List.map_eq_nil_iff

namespace Content

theorem unique {lines cs ds : List (Nat × Text)} (h : Content lines cs) (h' : Content lines ds) :
    cs = ds := by
  induction h generalizing ds with
  | nil =>
      cases h'
      rfl
  | blank hblank _ ih =>
      cases h' with
      | blank _ h' => exact ih h'
      | line hline hne _ =>
          rw [hblank] at hline
          cases hline
          exact absurd rfl hne
  | line hline hne _ ih =>
      cases h' with
      | blank hblank _ =>
          rw [hblank] at hline
          cases hline
          exact absurd rfl hne
      | line hline' _ h' =>
          rw [hline] at hline'
          cases hline'
          rw [ih h']

theorem append {lines lines' cs cs' : List (Nat × Text)} (h : Content lines cs)
    (h' : Content lines' cs') : Content (lines ++ lines') (cs ++ cs') := by
  induction h with
  | nil => exact h'
  | blank hblank _ ih => exact .blank hblank ih
  | line hline hne _ ih => exact .line hline hne ih

/-- The content of a sequence of lines can be taken apart with the lines. -/
theorem of_append {lines lines' cs : List (Nat × Text)} (h : Content (lines ++ lines') cs) :
    ∃ ds ds', cs = ds ++ ds' ∧ Content lines ds ∧ Content lines' ds' := by
  induction lines generalizing cs with
  | nil => exact ⟨[], cs, rfl, .nil, h⟩
  | cons l lines ih =>
      cases h with
      | blank hblank h =>
          obtain ⟨ds, ds', rfl, hds, hds'⟩ := ih h
          exact ⟨ds, ds', rfl, .blank hblank hds, hds'⟩
      | line hline hne h =>
          obtain ⟨ds, ds', rfl, hds, hds'⟩ := ih h
          exact ⟨_ :: ds, ds', rfl, .line hline hne hds, hds'⟩

theorem numbers_sublist {lines cs : List (Nat × Text)} (h : Content lines cs) :
    (cs.map Prod.fst).Sublist (lines.map Prod.fst) := by
  induction h with
  | nil => exact .slnil
  | blank _ _ ih => exact ih.cons _
  | line _ _ _ ih => exact ih.cons_cons _

end Content

namespace SourceUnit

theorem numberFrom_append (number : Nat) (lines lines' : List Text) :
    numberFrom number (lines ++ lines') =
      numberFrom number lines ++ numberFrom (number + lines.length) lines' := by
  induction lines generalizing number with
  | nil => rfl
  | cons line lines ih =>
      rw [List.cons_append, numberFrom, ih, List.length_cons, numberFrom, List.cons_append]
      congr 3
      omega

theorem numbers_numberFrom (number : Nat) (lines : List Text) :
    (numberFrom number lines).map Prod.fst = List.range' number lines.length := by
  induction lines generalizing number with
  | nil => rfl
  | cons line lines ih => simp [numberFrom, ih, List.range'_succ]

theorem texts_numberFrom (number : Nat) (lines : List Text) :
    (numberFrom number lines).map Prod.snd = lines := by
  induction lines generalizing number with
  | nil => rfl
  | cons line lines ih => rw [numberFrom, List.map_cons, ih]

theorem sorted_numbers {number : Nat} {lines : List Text} {cs : List (Nat × Text)}
    (h : Content (numberFrom number lines) cs) : (cs.map Prod.fst).Pairwise (· < ·) := by
  have hlines : ((numberFrom number lines).map Prod.fst).Pairwise (· < ·) := by
    rw [numbers_numberFrom]
    exact List.pairwise_lt_range'
  exact hlines.sublist h.numbers_sublist

theorem strippedFrom_eq_ok_iff {number : Nat} {lines ts : List Text} :
    strippedFrom number lines = .ok ts ↔
      ∃ cs, Content (numberFrom number lines) cs ∧ ts = texts cs := by
  induction lines generalizing number ts with
  | nil =>
      constructor
      · intro h
        cases h
        exact ⟨[], .nil, rfl⟩
      · rintro ⟨cs, h, rfl⟩
        cases h
        rfl
  | cons line lines ih =>
      simp only [strippedFrom, numberFrom]
      cases hline : line.stripComment with
      | error cause =>
          constructor
          · intro h
            cases h
          · rintro ⟨cs, h, -⟩
            cases h with
            | blank hblank _ =>
                rw [hline] at hblank
                cases hblank
            | line hline' _ _ =>
                rw [hline] at hline'
                cases hline'
      | ok t =>
          simp only [Except.bind_eq_ok_iff, Except.pure_eq_ok_iff, ih]
          constructor
          · rintro ⟨_, ⟨cs, hcs, rfl⟩, rfl⟩
            cases t with
            | nil => exact ⟨cs, .blank hline hcs, rfl⟩
            | cons c t => exact ⟨_, .line hline (List.cons_ne_nil c t) hcs, rfl⟩
          · rintro ⟨cs, h, rfl⟩
            cases h with
            | blank hblank h =>
                rw [hline] at hblank
                cases hblank
                exact ⟨_, ⟨cs, h, rfl⟩, rfl⟩
            | line hline' hne h =>
                rw [hline] at hline'
                cases hline'
                refine ⟨_, ⟨_, h, rfl⟩, ?_⟩
                rw [if_neg (by simpa using hne)]
                rfl

theorem ofLines_eq_ok_iff {number : Nat} {lines : List Text} {u : SourceUnit} :
    ofLines number lines = .ok u ↔
      ∃ cs, Content (numberFrom number lines) cs ∧
        u = ⟨number, lines, [' '].intercalate (texts cs)⟩ := by
  simp only [ofLines, Except.bind_eq_ok_iff, Except.pure_eq_ok_iff, strippedFrom_eq_ok_iff]
  constructor
  · rintro ⟨_, ⟨cs, hcs, rfl⟩, rfl⟩
    exact ⟨cs, hcs, rfl⟩
  · rintro ⟨cs, hcs, rfl⟩
    exact ⟨_, ⟨cs, hcs, rfl⟩, rfl⟩

theorem ofLines_singleton {first : Nat} {line : Text} {u : SourceUnit} :
    ofLines first [line] = .ok u ↔ ∃ t, line.stripComment = .ok t ∧ u = ⟨first, [line], t⟩ := by
  rw [ofLines, strippedFrom]
  cases line.stripComment with
  | error cause => simp
  | ok t => cases t <;> simp [strippedFrom, eq_comm]

theorem slice_first {u : SourceUnit} {line : Text} {rest : List Text}
    (h : u.lines = line :: rest) : u.slice 0 1 = ofLines u.first [line] := by
  simp [slice, h]

end SourceUnit

end Overlay
