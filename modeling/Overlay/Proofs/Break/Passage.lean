import Overlay.Proofs.Break.Blocks
import Overlay.Proofs.Break.Opening
import Overlay.Proofs.Spacing.Gap

/-!
Passages in which a line is cut. A declaration or a rule stays one passage if a
bracket is open at the cut: neither does it end there, nor does what follows the
bracket have a part in how it begins. A block stays one passage if the halves
open and close as many blocks as the line does.
-/

namespace Overlay

open Text

theorem Text.exists_open_of_bracketDepth {t : Text} {depth : Nat}
    (h : bracketDepth t = .ok (depth + 1)) :
    ∃ u o v, t = u ++ o :: v ∧ (closer? o).isSome = true := by
  obtain ⟨ts, es, hts, hes, hdepth⟩ := bracketDepth_eq_ok_iff.1 h
  by_contra hnone
  have hclosed : ∀ c ∈ t, closer? c = none := by
    intro c hc
    obtain ⟨u, v, rfl⟩ := List.append_of_mem hc
    by_contra hopen
    exact hnone ⟨u, c, v, rfl, Option.isSome_iff_ne_none.2 hopen⟩
  have hnil : es = [] := by
    clear hnone h
    induction hts generalizing es with
    | nil => exact (Option.some.inj hes).symm
    | @char c t ts hc _ _ ih =>
        rw [expectedAfter, hclosed c List.mem_cons_self] at hes
        cases hcloser : isCloser c with
        | true =>
            rw [hcloser] at hes
            cases hes
        | false =>
            rw [hcloser] at hes
            exact ih es hes hdepth fun d hd => hclosed d (List.mem_cons_of_mem c hd)
    | literal _ _ ih =>
        exact ih es hes hdepth fun d hd => hclosed d (List.mem_append_right _ hd)
  rw [hnil] at hdepth
  cases hdepth

/-! The text of a passage around the cut. -/

section

variable (xs us : List Text) (front gap back : Text)

theorem Text.intercalate_whole : [' '].intercalate (xs ++ (front ++ (gap ++ back)) :: us) =
    [' '].intercalate (xs ++ [front]) ++ (gap ++ [' '].intercalate (back :: us)) := by
  have hrest : [' '].intercalate ((front ++ (gap ++ back)) :: us) =
      front ++ (gap ++ [' '].intercalate (back :: us)) := by
    rw [intercalate_append_left, intercalate_append_left]
  by_cases hxs : xs = []
  · rwa [hxs, List.nil_append, List.nil_append, List.intercalate_singleton]
  · rw [intercalate_append hxs (List.cons_ne_nil _ _),
      intercalate_append hxs (List.cons_ne_nil _ _), hrest]
    simp

theorem Text.intercalate_halves : [' '].intercalate (xs ++ front :: back :: us) =
    [' '].intercalate (xs ++ [front]) ++ ([' '] ++ [' '].intercalate (back :: us)) := by
  have hne : xs ++ [front] ≠ [] := by simp
  rw [← List.append_assoc, ← intercalate_append hne (List.cons_ne_nil back us), List.append_assoc,
    List.singleton_append]

end

namespace Construct

/-- A passage stays one if it does not end with the first half and goes on after
the second as after the line. -/
theorem Fills.cut {c : Construct} {xs ys : List Text} {whole front back : Text}
    (h : Fills c [] (xs ++ whole :: ys)) (hopen : c.ends (xs ++ [front]) = .ok false)
    (hends : ∀ {us b}, c.ends (xs ++ whole :: us) = .ok b →
      c.ends (xs ++ front :: back :: us) = .ok b) :
    Fills c [] (xs ++ front :: back :: ys) := by
  obtain ⟨hrest, hcut⟩ := h.split (List.cons_ne_nil _ _)
  refine hcut _ (.more hopen ?_)
  have hends' {us : List Text} {b : Bool} (hus : c.ends (xs ++ [whole] ++ us) = .ok b) :
      c.ends (xs ++ [front] ++ [back] ++ us) = .ok b := by
    simp only [List.append_assoc, List.singleton_append] at hus ⊢
    exact hends hus
  rw [List.nil_append] at hrest ⊢
  cases hrest with
  | last hlast =>
      have hlast := @hends' [] true (by rwa [List.append_nil])
      rw [List.append_nil] at hlast
      exact .last hlast
  | more hmore hys =>
      have hmore := @hends' [] false (by rwa [List.append_nil])
      rw [List.append_nil] at hmore
      exact .more hmore (hys.congr fun _ => hends')

end Construct

section

variable {candidates : List Construct} {c : Construct} {xs ys : List Text}
  {front gap back : Text} (hgap : IsGap gap)

include hgap

theorem IsPassage.cut_block (hblock : c.isBlock = true)
    (h : IsPassage candidates c (xs ++ (front ++ (gap ++ back)) :: ys)) (hxs : xs ≠ [])
    (hrise : Construct.rise front + Construct.rise back =
      Construct.rise (front ++ (gap ++ back))) :
    IsPassage candidates c (xs ++ front :: back :: ys) := by
  have hends := Construct.ends_block hblock
  have hdepth : Construct.blockDepth xs ≠ 0 := by
    have hopen := h.fills.unfinished hxs (List.cons_ne_nil _ _)
    rw [List.nil_append, hends] at hopen
    simpa using hopen
  obtain ⟨hfront, hboth⟩ := Construct.depthAfter_halves hgap hrise hdepth
  constructor
  case begins =>
    obtain ⟨x, xs, rfl⟩ := List.exists_cons_of_ne_nil hxs
    exact h.begins
  case fills =>
    refine h.fills.cut ?_ fun {us b} hus => ?_
    · rw [hends, Construct.blockDepth_concat hxs]
      simpa using hfront
    · rw [hends, Construct.blockDepth_append hxs, List.foldl_cons] at hus
      rw [hends, Construct.blockDepth_append hxs, List.foldl_cons, List.foldl_cons, hboth]
      exact hus

variable {depth : Nat} (hdepth : bracketDepth ([' '].intercalate (xs ++ [front])) = .ok (depth + 1))

include hdepth

theorem IsPassage.cut_leaf (hleaf : c.isBlock = false) (hlast : Construct.BlocksLast candidates)
    (h : IsPassage candidates c (xs ++ (front ++ (gap ++ back)) :: ys)) :
    IsPassage candidates c (xs ++ front :: back :: ys) := by
  have hends := Construct.ends_leaf hleaf
  obtain ⟨ts, -, hts, -⟩ := bracketDepth_eq_ok_iff.1 hdepth
  constructor
  case begins =>
    cases xs with
    | cons x xs => exact h.begins
    | nil =>
        -- The bracket that is open at the cut stands on the first line.
        rw [List.nil_append, List.intercalate_singleton] at hdepth
        obtain ⟨u, o, v, rfl, ho⟩ := exists_open_of_bracketDepth hdepth
        refine Construct.find?_opens_congr hlast (fun d hd => ?_) hleaf h.begins
        simp only [List.nil_append, List.headD_cons, List.append_assoc, List.cons_append]
        exact Construct.opens_append_open ho hd u _ _
  case fills =>
    refine h.fills.cut ?_ fun {us b} hus => ?_
    · rw [hends, hdepth]
      rfl
    · rw [hends, intercalate_whole] at hus
      rw [hends, intercalate_halves]
      obtain ⟨depth', hdepth', rfl⟩ := Except.map_eq_ok_iff.1 hus
      rw [bracketDepth_gap hgap isGap_space hts hdepth']
      rfl

theorem IsPassage.respaced_cut (hleaf : c.isBlock = false)
    (h : IsPassage candidates c (xs ++ (front ++ (gap ++ back)) :: ys)) :
    Respaced ([' '].intercalate (xs ++ (front ++ (gap ++ back)) :: ys))
      ([' '].intercalate (xs ++ front :: back :: ys)) := by
  obtain ⟨ts, -, hts, -⟩ := bracketDepth_eq_ok_iff.1 hdepth
  have hends := (Construct.ends_leaf_iff hleaf).1 h.fills.ends
  rw [List.nil_append, intercalate_whole] at hends
  obtain ⟨as, has⟩ := exists_balanced_of_bracketDepth hends
  rw [intercalate_whole, intercalate_halves]
  exact has.respaced hgap isGap_space hts

end

/-- A passage without a block in it is a balanced text. -/
theorem IsPassage.respaced_refl {candidates : List Construct} {c : Construct} {ts : List Text}
    (hleaf : c.isBlock = false) (h : IsPassage candidates c ts) :
    Respaced ([' '].intercalate ts) ([' '].intercalate ts) := by
  have hends := (Construct.ends_leaf_iff hleaf).1 h.fills.ends
  obtain ⟨as, has⟩ := exists_balanced_of_bracketDepth hends
  exact .refl has

end Overlay
