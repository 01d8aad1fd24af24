import Overlay.Proofs.Condition.Reading
import Overlay.Proofs.Failure.Call

/-!
Failures of conditions. A condition is cut at its connectives, and its parts are balanced
as it is; a leaf is one call or one comparison. So what is wrong with a condition whose
text is balanced is never one of its quotes or brackets.
-/

namespace Overlay

open Argument (semantic_nth_bind shows_text shows_literal)

namespace Leaf

theorem semantic_ofComparison (t : Text) : Semantic (ofComparison t) := by
  unfold ofComparison
  split
  · exact .error ⟨rfl, rfl⟩
  · exact (Literal.semantic_ofText _).bind fun _ _ => .ok _

theorem semantic_readPattern (t : Text) : Semantic (readPattern t) := by
  unfold readPattern
  split
  · exact .ok _
  · exact .error ⟨rfl, rfl⟩

theorem semantic_ofLike (t : Text) : Semantic (ofLike t) := by
  refine Method.semantic_call_bind fun args hargs => ?_
  refine semantic_nth_bind shows_text hargs rfl (by decide) fun name _ => ?_
  refine semantic_nth_bind shows_text hargs rfl (by decide) fun source _ => ?_
  exact (semantic_readPattern source).bind fun _ _ => .ok _

theorem semantic_ofRange (t : Text) : Semantic (ofRange t) := by
  refine Method.semantic_call_bind fun args hargs => ?_
  refine semantic_nth_bind shows_literal hargs rfl (by decide) fun low _ => ?_
  refine semantic_nth_bind shows_literal hargs rfl (by decide) fun high _ => ?_
  split
  · exact .error ⟨rfl, rfl⟩
  · split
    · exact .error ⟨rfl, rfl⟩
    · exact semantic_nth_bind shows_text hargs rfl (by decide) fun _ _ => .ok _

theorem semantic_ofText (t : Text) : Semantic (ofText t) := by
  fun_induction ofText t
  case case1 => exact .ok _
  case case2 t _ _ => exact semantic_ofComparison t
  case case3 t _ _ _ => exact semantic_ofLike t
  case case4 t _ _ _ _ => exact semantic_ofRange t
  case case5 ih => exact ih.map _
  case case6 => exact .error ⟨rfl, rfl⟩

end Leaf

namespace Condition

theorem semantic_ofText {t : Text} (h : t.IsBalanced) : Semantic (ofText t) := by
  -- Every text that the recursion goes on with is balanced like the one it was cut from.
  induction t using ofText.induct with
  | case1 t cause hor =>
      rw [ofText_eq, hor]
      exact .error (h.semantic_split _ _ cause hor)
  | case2 t parts hor hcut ih =>
      rw [ofText_eq]
      simp only [hor, if_pos hcut]
      exact .map _ <| .mapM fun p hp => ih ⟨p, hp⟩ (.of_mem_split (List.cons_ne_nil _ _) hor hp)
  | case3 t parts hor hcut cause hand =>
      rw [ofText_eq]
      simp only [hor, if_neg hcut, hand]
      exact .error (h.semantic_split _ _ cause hand)
  | case4 t orParts hor horCut parts hand hcut ih =>
      rw [ofText_eq]
      simp only [hor, if_neg horCut, hand, if_pos hcut]
      exact .map _ <| .mapM fun p hp => ih ⟨p, hp⟩ (.of_mem_split (List.cons_ne_nil _ _) hand hp)
  | case5 t orParts hor horCut parts hand hcut cause hparens =>
      rw [ofText_eq]
      simp only [hor, if_neg horCut, hand, if_neg hcut, hparens]
      exact .error (h.semantic_stripParens cause hparens)
  | case6 t orParts hor horCut parts hand hcut inner hparens ih =>
      rw [ofText_eq]
      simp only [hor, if_neg horCut, hand, if_neg hcut, hparens]
      exact ih (.of_stripParens hparens)
  | case7 t orParts hor horCut parts hand hcut hparens =>
      rw [ofText_eq]
      simp only [hor, if_neg horCut, hand, if_neg hcut, hparens]
      exact (Leaf.semantic_ofText t).map _

/-- A condition whose brackets are not closed fails when it is cut for the first time. -/
theorem notInternal_ofText (t : Text) : FailsOnly (·.isInternal = false) (ofText t) := by
  cases hor : t.split orSign none with
  | error cause =>
      rw [ofText_eq, hor]
      exact .error (t.notInternal_split _ _ cause hor)
  | ok parts => exact (semantic_ofText (.of_split hor)).mono fun _ he => he.notInternal

end Condition

end Overlay
