import Mathlib.Data.List.Basic

/-!
Texts, or tokens, one after the other with a separator between them.
-/

namespace Overlay.Text

variable {α : Type} {sep : List α} {xs ys : List (List α)}

theorem intercalate_append (hxs : xs ≠ []) (hys : ys ≠ []) :
    sep.intercalate (xs ++ ys) = sep.intercalate xs ++ sep ++ sep.intercalate ys := by
  induction xs with
  | nil => exact absurd rfl hxs
  | cons x xs ih =>
      by_cases hrest : xs = []
      · rw [hrest, List.singleton_append, List.intercalate_cons_of_ne_nil hys,
          List.intercalate_singleton]
      · rw [List.cons_append, List.intercalate_cons_of_ne_nil (by simp [hrest]), ih hrest,
          List.intercalate_cons_of_ne_nil hrest]
        simp only [List.append_assoc]

theorem intercalate_append_left (sep b x : List α) (xs : List (List α)) :
    sep.intercalate ((b ++ x) :: xs) = b ++ sep.intercalate (x :: xs) := by
  cases xs with
  | nil => simp
  | cons y ys => simp [List.intercalate_cons_cons]

theorem intercalate_append_right (sep x b : List α) (xs : List (List α)) :
    sep.intercalate (xs ++ [x ++ b]) = sep.intercalate (xs ++ [x]) ++ b := by
  by_cases hxs : xs = []
  · simp [hxs]
  · rw [intercalate_append hxs (List.cons_ne_nil _ _),
      intercalate_append hxs (List.cons_ne_nil _ _)]
    simp

theorem infix_intercalate {x : List α} (h : x ∈ xs) : x <:+: sep.intercalate xs := by
  obtain ⟨front, back, rfl⟩ := List.append_of_mem h
  have hhead : x <+: sep.intercalate (x :: back) := by
    have h := intercalate_append_left sep x [] back
    rw [List.append_nil] at h
    exact h ▸ List.prefix_append x _
  by_cases hfront : front = []
  · rw [hfront]
    exact hhead.isInfix
  · rw [intercalate_append hfront (List.cons_ne_nil x back)]
    exact hhead.isInfix.trans (List.suffix_append _ _).isInfix

theorem mem_intercalate {a : α} (h : a ∈ sep.intercalate xs) : a ∈ sep ∨ ∃ x ∈ xs, a ∈ x := by
  induction xs with
  | nil => cases h
  | cons x xs ih =>
      cases xs with
      | nil =>
          rw [List.intercalate_singleton] at h
          exact .inr ⟨x, List.mem_cons_self, h⟩
      | cons y ys =>
          rw [List.intercalate_cons_cons, List.mem_append, List.mem_append] at h
          rcases h with (h | h) | h
          · exact .inr ⟨x, List.mem_cons_self, h⟩
          · exact .inl h
          · exact (ih h).imp id fun ⟨z, hz, ha⟩ => ⟨z, List.mem_cons_of_mem x hz, ha⟩

end Overlay.Text
