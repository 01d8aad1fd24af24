import Overlay.Processing
import Overlay.Proofs.Failure.Condition

/-!
Failures of processing. The format of each call allows only what is done with its
arguments afterwards: the instants of a window are read again from time literals, whole
numbers are taken from positions for whole numbers, and a text that is read further is
an untyped argument.
-/

namespace Overlay

open Argument (semantic_nth_bind shows_text shows_literal shows_integer shows_untyped)

theorem semantic_checkPositive (what : Quantity) (value : Literal) :
    Semantic (checkPositive what value) := by
  unfold checkPositive
  split
  · exact .ok _
  · exact .error ⟨rfl, rfl⟩

namespace TimeWindow

/-- In the position of a time literal there is an instant. -/
theorem exists_instantAt {format : List (List ArgumentType)} {args : List Argument}
    (h : List.Forall₂ Argument.Fits format args) {index : Nat}
    (hindex : format[index]? = some [.time]) : ∃ t, instantAt args index = .ok t := by
  obtain ⟨a, ha, type, htype, hhas⟩ := Argument.exists_fits h hindex
  obtain rfl := List.mem_singleton.1 htype
  cases hhas with
  | @time s hs =>
      obtain ⟨t, ht⟩ := Option.isSome_iff_exists.1 hs
      have htext : Argument.nth Argument.text? args index = .ok s :=
        Argument.nth_eq_ok_iff.2 ⟨_, ha, rfl⟩
      exact ⟨t, by rw [instantAt, htext, Except.ok_bind, ht]⟩

theorem semantic_ofText (t : Text) : Semantic (ofText t) := by
  refine Method.semantic_call_bind fun args hargs => ?_
  refine (FailsOnly.of_ok (exists_instantAt hargs rfl)).bind fun start _ => ?_
  refine (FailsOnly.of_ok (exists_instantAt hargs rfl)).bind fun finish _ => ?_
  refine semantic_nth_bind shows_integer hargs rfl (by decide) fun interval _ => ?_
  refine semantic_nth_bind shows_text hargs rfl (by decide) fun unitName _ => ?_
  split
  · exact .error ⟨rfl, rfl⟩
  · split
    · exact .error ⟨rfl, rfl⟩
    · split
      · exact .error ⟨rfl, rfl⟩
      · exact semantic_nth_bind shows_text hargs rfl (by decide) fun _ _ => .ok _

end TimeWindow

namespace SpaceWindow

theorem semantic_checkEdge (edge : Edge) (value : Literal) : Semantic (checkEdge edge value) := by
  unfold checkEdge
  dsimp only
  split
  · exact .ok _
  · exact .error ⟨rfl, rfl⟩

theorem semantic_checkOrder (low high : Edge) (a b : Literal) :
    Semantic (checkOrder low high a b) := by
  unfold checkOrder
  split
  · split
    · exact .error ⟨rfl, rfl⟩
    · exact .ok _
  · exact .ok _

theorem semantic_check (w : SpaceWindow) : Semantic w.check := by
  refine (semantic_checkEdge _ _).bind fun _ _ => ?_
  refine (semantic_checkEdge _ _).bind fun _ _ => ?_
  refine (semantic_checkEdge _ _).bind fun _ _ => ?_
  refine (semantic_checkEdge _ _).bind fun _ _ => ?_
  refine (semantic_checkOrder _ _ _ _).bind fun _ _ => ?_
  refine (semantic_checkOrder _ _ _ _).bind fun _ _ => ?_
  exact (semantic_checkPositive _ _).bind fun _ _ => semantic_checkPositive _ _

theorem semantic_ofText (t : Text) : Semantic (ofText t) := by
  refine Method.semantic_call_bind fun args hargs => ?_
  refine semantic_nth_bind shows_text hargs rfl (by decide) fun latitude _ => ?_
  refine semantic_nth_bind shows_text hargs rfl (by decide) fun longitude _ => ?_
  refine semantic_nth_bind shows_literal hargs rfl (by decide) fun west _ => ?_
  refine semantic_nth_bind shows_literal hargs rfl (by decide) fun south _ => ?_
  refine semantic_nth_bind shows_literal hargs rfl (by decide) fun east _ => ?_
  refine semantic_nth_bind shows_literal hargs rfl (by decide) fun north _ => ?_
  refine semantic_nth_bind shows_literal hargs rfl (by decide) fun latitudeInterval _ => ?_
  refine semantic_nth_bind shows_literal hargs rfl (by decide) fun longitudeInterval _ => ?_
  exact (semantic_check _).bind fun _ _ => .ok _

end SpaceWindow

namespace Aggregate

theorem semantic_addWindow (a : Aggregate) (t : Text) : Semantic (a.addWindow t) := by
  unfold addWindow
  split
  · split
    · exact .error ⟨rfl, rfl⟩
    · exact (TimeWindow.semantic_ofText t).bind fun _ _ => .ok _
  · split
    · exact .error ⟨rfl, rfl⟩
    · exact (SpaceWindow.semantic_ofText t).bind fun _ _ => .ok _
  · exact .error ⟨rfl, rfl⟩

theorem length_format {count : Nat} (h : 2 ≤ count) : (format count).length = count := by
  simp only [format, List.length_cons, List.length_replicate]
  omega

theorem semantic_ofText (t : Text) : Semantic (ofText t) := by
  refine (Method.semantic_arguments _ t).bind fun ts hts => ?_
  refine (Method.semantic_expectBetween _ ts 3 4).bind fun _ hcount => ?_
  refine (Method.semantic_convert _ ts _).bind fun args hargs => ?_
  have hthree := (Method.expectBetween_eq_ok_iff.1 hcount).1
  have hfits : List.Forall₂ Argument.Fits (format ts.length) args :=
    Method.fits_of_convert (fun _ hs => Method.isBalanced_of_mem_arguments hts hs)
      (length_format (by omega)).symm hargs
  refine semantic_nth_bind shows_text hfits rfl (by decide) fun name _ => ?_
  refine semantic_nth_bind shows_text hfits rfl (by decide) fun functionName _ => ?_
  split
  · exact .error ⟨rfl, rfl⟩
  · exact .foldlM fun s _ a => semantic_addWindow a s

end Aggregate

theorem VirtualProperty.semantic_ofText (t : Text) : Semantic (ofText t) := by
  refine Method.semantic_call_bind fun args hargs => ?_
  refine semantic_nth_bind shows_text hargs rfl (by decide) fun expression _ => ?_
  split
  · exact .error ⟨rfl, rfl⟩
  · exact semantic_nth_bind shows_text hargs rfl (by decide) fun _ _ => .ok _

theorem Ratio.semantic_ofArguments {args : List Argument}
    (h : List.Forall₂ Argument.Fits Processing.cullFormat args) : Semantic (ofArguments args) := by
  refine semantic_nth_bind shows_integer h rfl (by decide) fun numerator _ => ?_
  refine semantic_nth_bind shows_integer h rfl (by decide) fun denominator _ => ?_
  dsimp only
  split
  · exact .ok _
  · exact .error ⟨rfl, rfl⟩

namespace Processing

theorem semantic_ofText (m : Method) (t : Text) : Semantic (ofText m t) := by
  cases m with
  | filter =>
      refine Method.semantic_call_bind fun args hargs => ?_
      refine semantic_nth_bind shows_untyped hargs rfl (by decide) fun condition hcondition => ?_
      have hbalanced := Argument.isBalanced_of_nth hargs hcondition
      exact (Condition.semantic_ofText hbalanced).bind fun _ _ => .ok _
  | cullTime =>
      refine Method.semantic_call_bind fun args hargs => ?_
      refine (Ratio.semantic_ofArguments hargs).bind fun ratio _ => ?_
      refine semantic_nth_bind shows_untyped hargs rfl (by decide) fun window _ => ?_
      exact (TimeWindow.semantic_ofText window).bind fun _ _ => .ok _
  | cullSpace =>
      refine Method.semantic_call_bind fun args hargs => ?_
      refine (Ratio.semantic_ofArguments hargs).bind fun ratio _ => ?_
      refine semantic_nth_bind shows_untyped hargs rfl (by decide) fun window _ => ?_
      exact (SpaceWindow.semantic_ofText window).bind fun _ _ => .ok _
  | aggregate => exact (Aggregate.semantic_ofText t).map _
  | string =>
      refine Method.semantic_call_bind fun args hargs => ?_
      refine semantic_nth_bind shows_text hargs rfl (by decide) fun name _ => ?_
      refine semantic_nth_bind shows_text hargs rfl (by decide) fun source _ => ?_
      refine semantic_nth_bind shows_text hargs rfl (by decide) fun replacement _ => ?_
      exact (Leaf.semantic_readPattern source).bind fun _ _ => .ok _
  | virtual => exact (VirtualProperty.semantic_ofText t).map _
  | _ => exact .error ⟨rfl, rfl⟩

end Processing

end Overlay
