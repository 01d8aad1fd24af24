import Overlay.Proofs.Break.Line
import Overlay.Proofs.Outline.Content
import Overlay.Proofs.Spacing.Units

/-!
Content of a text in which a line is cut in two. The halves take the place of
the line, and the lines after it move on by one. A half that holds nothing is
no content, and what the other half holds is then all that the line held.
-/

namespace Overlay

open Text

/-- How a line that is cut falls into halves. Between them stood a gap. -/
inductive Halves : (whole front back : Text) → Prop
  | front (t : Text) : Halves t t []
  | back (t : Text) : Halves t [] t
  | both {front gap back : Text} : front ≠ [] → back ≠ [] → IsGap gap →
      Halves (front ++ (gap ++ back)) front back

theorem Halves.of_nil {whole front back : Text} (h : Halves whole front back) (hnil : whole = []) :
    front = [] ∧ back = [] := by
  cases h with
  | front => exact ⟨hnil, rfl⟩
  | back => exact ⟨rfl, hnil⟩
  | both hne _ _ => exact absurd (List.append_eq_nil_iff.1 hnil).1 hne

theorem halves_trim {a b : Text} (ha : '\n' ∉ a) (hb : '\n' ∉ b) :
    Halves (trim (a ++ ' ' :: b)) a.trim b.trim := by
  obtain ⟨l, r, hl, hr, haeq, hastart, haend⟩ := exists_trim a
  obtain ⟨l', r', hl', hr', hbeq, hbstart, hbend⟩ := exists_trim b
  have hblank : (r ++ ' ' :: l').allBlank = true :=
    allBlank_append.2 ⟨hr, allBlank_cons.2 ⟨by decide, hl'⟩⟩
  have hsplit : a ++ ' ' :: b = l ++ (a.trim ++ ((r ++ ' ' :: l') ++ b.trim)) ++ r' := by
    conv => lhs; rw [haeq, hbeq]
    simp only [List.append_assoc, List.cons_append]
  by_cases hfront : a.trim = []
  · rw [hfront, List.nil_append] at hsplit
    rw [hfront, hsplit, ← List.append_assoc l,
      trim_append_blank (allBlank_append.2 ⟨hl, hblank⟩) hr', trim_trim]
    exact .back b.trim
  · by_cases hback : b.trim = []
    · rw [hback, List.append_nil, ← List.append_assoc l, List.append_assoc (l ++ a.trim)] at hsplit
      rw [hback, hsplit, trim_append_blank hl (allBlank_append.2 ⟨hblank, hr'⟩), trim_trim]
      exact .front a.trim
    · have hgap : IsGap (r ++ ' ' :: l') := by
        refine ⟨by simp, hblank, ?_⟩
        rw [haeq] at ha
        rw [hbeq] at hb
        simp only [List.mem_append, not_or] at ha hb
        simp [ha.2, hb.1.1]
      rw [hsplit, trim_eq hl hr' (hastart.append hfront)
        ((hbend.append hback).append (by simp))]
      exact .both hfront hback hgap

/-- The lines that hold something. -/
def filled (cs : List (Nat × Text)) : List (Nat × Text) := cs.filter fun c => !c.2.isEmpty

theorem filled_append (cs ds : List (Nat × Text)) : filled (cs ++ ds) = filled cs ++ filled ds :=
  List.filter_append cs ds

/-- What both halves hold is what the line held, if one of them holds nothing. -/
theorem Halves.texts_filled {whole front back : Text} (h : Halves whole front back)
    (hne : whole ≠ []) (n m : Nat) : texts (filled [(n, front), (m, back)]) = [whole] ∨
      front ≠ [] ∧ texts (filled [(n, front), (m, back)]) = [front, back] ∧
        ∃ gap, IsGap gap ∧ whole = front ++ (gap ++ back) := by
  cases h with
  | front => exact .inl (by simp [filled, hne])
  | back => exact .inl (by simp [filled, hne])
  | both hfront hback hgap => exact .inr ⟨hfront, by simp [filled, hfront, hback], _, hgap, rfl⟩

/-- A line that is cut: its number, what it holds and what its halves hold. -/
structure LineBreak where
  number : Nat
  whole : Text
  front : Text
  back : Text

namespace LineBreak

def halves (k : LineBreak) : List (Nat × Text) :=
  filled [(k.number, k.front), (k.number + 1, k.back)]

/-- What becomes of a line. -/
def line (k : LineBreak) (c : Nat × Text) : List (Nat × Text) :=
  if c.1 < k.number then [c] else if c.1 = k.number then k.halves else [(c.1 + 1, c.2)]

/-- What becomes of the content of lines. -/
def apply (k : LineBreak) (cs : List (Nat × Text)) : List (Nat × Text) := cs.flatMap k.line

@[simp] theorem apply_nil (k : LineBreak) : k.apply [] = [] := rfl

theorem apply_cons (k : LineBreak) (c : Nat × Text) (cs : List (Nat × Text)) :
    k.apply (c :: cs) = k.line c ++ k.apply cs := rfl

@[simp] theorem apply_append (k : LineBreak) (cs ds : List (Nat × Text)) :
    k.apply (cs ++ ds) = k.apply cs ++ k.apply ds := List.flatMap_append

theorem apply_flatten (k : LineBreak) (css : List (List (Nat × Text))) :
    k.apply css.flatten = (css.map k.apply).flatten := by
  induction css with
  | nil => rfl
  | cons cs css ih => rw [List.flatten_cons, apply_append, ih, List.map_cons, List.flatten_cons]

theorem line_eq_singleton {k : LineBreak} {c : Nat × Text} (h : c.1 ≠ k.number) :
    ∃ n, k.line c = [(n, c.2)] := by
  unfold line
  split
  · exact ⟨c.1, rfl⟩
  · exact ⟨c.1 + 1, rfl⟩

theorem line_number (k : LineBreak) (t : Text) : k.line (k.number, t) = k.halves := by
  simp [line]

/-- Other lines say what they said. -/
theorem texts_apply {k : LineBreak} {cs : List (Nat × Text)} (h : k.number ∉ cs.map Prod.fst) :
    texts (k.apply cs) = texts cs := by
  induction cs with
  | nil => rfl
  | cons c cs ih =>
      rw [List.map_cons, List.mem_cons, not_or] at h
      obtain ⟨n, hn⟩ := line_eq_singleton (Ne.symm h.1)
      rw [apply_cons, hn, texts_append, ih h.2]
      rfl

/-- Whether some content stands before the line and other content after it. -/
structure Around (k : LineBreak) (xs ys : List (Nat × Text)) : Prop where
  before : ∀ c ∈ xs, c.1 < k.number
  after : ∀ c ∈ ys, k.number < c.1

theorem Around.not_mem_before {k : LineBreak} {xs ys : List (Nat × Text)} (h : k.Around xs ys) :
    k.number ∉ xs.map Prod.fst := by
  intro hmem
  obtain ⟨c, hc, heq⟩ := List.mem_map.1 hmem
  have hlt := h.before c hc
  omega

theorem Around.not_mem_after {k : LineBreak} {xs ys : List (Nat × Text)} (h : k.Around xs ys) :
    k.number ∉ ys.map Prod.fst := by
  intro hmem
  obtain ⟨c, hc, heq⟩ := List.mem_map.1 hmem
  have hlt := h.after c hc
  omega

theorem Around.texts_apply {k : LineBreak} {xs ys : List (Nat × Text)} (h : k.Around xs ys)
    (t : Text) : texts (k.apply (xs ++ (k.number, t) :: ys)) =
      texts xs ++ texts k.halves ++ texts ys := by
  rw [apply_append, apply_cons, line_number, texts_append, texts_append,
    LineBreak.texts_apply h.not_mem_before, LineBreak.texts_apply h.not_mem_after,
    List.append_assoc]

theorem apply_before {k : LineBreak} {cs : List (Nat × Text)} (h : ∀ c ∈ cs, c.1 < k.number) :
    k.apply cs = cs := by
  induction cs with
  | nil => rfl
  | cons c cs ih =>
      obtain ⟨hc, hcs⟩ := List.forall_mem_cons.1 h
      rw [apply_cons, ih hcs, line, if_pos hc]
      rfl

theorem apply_after {k : LineBreak} {cs : List (Nat × Text)} (h : ∀ c ∈ cs, k.number < c.1) :
    k.apply cs = cs.map fun c => (c.1 + 1, c.2) := by
  induction cs with
  | nil => rfl
  | cons c cs ih =>
      obtain ⟨hc, hcs⟩ := List.forall_mem_cons.1 h
      rw [apply_cons, ih hcs, line, if_neg (by omega), if_neg (by omega)]
      rfl

/-- The halves take the place of the line, also if it holds nothing. -/
theorem apply_filled {k : LineBreak} (h : Halves k.whole k.front k.back) :
    k.apply (filled [(k.number, k.whole)]) = k.halves := by
  cases hwhole : k.whole with
  | nil =>
      obtain ⟨hfront, hback⟩ := h.of_nil hwhole
      simp [filled, halves, hfront, hback]
  | cons c t => simp [filled, apply_cons, line_number]

end LineBreak

/-! The content of the two texts. -/

namespace Content

theorem of_stripComment {line t : Text} (h : line.stripComment = .ok t) (number : Nat) :
    Content [(number, line)] (filled [(number, t)]) := by
  cases t with
  | nil => exact .blank h .nil
  | cons c t => exact .line h (List.cons_ne_nil c t) .nil

theorem shift {number : Nat} {lines : List Text} {cs : List (Nat × Text)}
    (h : Content (SourceUnit.numberFrom number lines) cs) :
    Content (SourceUnit.numberFrom (number + 1) lines) (cs.map fun c => (c.1 + 1, c.2)) := by
  induction lines generalizing number cs with
  | nil =>
      cases h
      exact .nil
  | cons line lines ih =>
      cases h with
      | blank hblank h => exact .blank hblank (ih h)
      | line hline hne h => exact .line hline hne (ih h)

theorem number_mem {number : Nat} {lines : List Text} {cs : List (Nat × Text)}
    (h : Content (SourceUnit.numberFrom number lines) cs) {c : Nat × Text} (hc : c ∈ cs) :
    number ≤ c.1 ∧ c.1 < number + lines.length := by
  have hmem := h.numbers_sublist.subset (List.mem_map_of_mem hc)
  rw [SourceUnit.numbers_numberFrom, List.mem_range'_1] at hmem
  exact hmem

/-- The content of lines around one of them. -/
theorem exists_around {k : LineBreak} {number : Nat} {before after : List Text} {line : Text}
    {cs : List (Nat × Text)} (hnumber : number + before.length = k.number)
    (hline : line.stripComment = .ok k.whole)
    (h : Content (SourceUnit.numberFrom number (before ++ line :: after)) cs) :
    ∃ xs ys, cs = xs ++ filled [(k.number, k.whole)] ++ ys ∧ k.Around xs ys ∧
      Content (SourceUnit.numberFrom number before) xs ∧
      Content (SourceUnit.numberFrom (k.number + 1) after) ys := by
  rw [SourceUnit.numberFrom_append, hnumber, SourceUnit.numberFrom] at h
  obtain ⟨xs, rest, rfl, hxs, h⟩ := h.of_append
  obtain ⟨middle, ys, rfl, hmiddle, hys⟩ := @of_append [(k.number, line)] _ _ h
  obtain rfl := hmiddle.unique (of_stripComment hline k.number)
  refine ⟨xs, ys, by rw [List.append_assoc], ⟨fun c hc => ?_, fun c hc => ?_⟩, hxs, hys⟩
  · obtain ⟨-, hlt⟩ := hxs.number_mem hc
    omega
  · obtain ⟨hle, -⟩ := hys.number_mem hc
    omega

end Content

/-- The content of a text in which a line was cut. -/
theorem LineBreak.content_apply {k : LineBreak} {before rest : List Text} {line first : Text}
    {cs : List (Nat × Text)} {number : Nat} (hnumber : number + before.length = k.number)
    (hline : line.stripComment = .ok k.whole) (hfirst : first.stripComment = .ok k.front)
    (hsecond : (rest.headD []).stripComment = .ok k.back)
    (hhalves : Halves k.whole k.front k.back)
    (h : Content (SourceUnit.numberFrom number (before ++ line :: rest.tail)) cs) :
    Content (SourceUnit.numberFrom number (before ++ first :: rest)) (k.apply cs) := by
  obtain ⟨xs, ys, rfl, haround, hxs, hys⟩ := h.exists_around hnumber hline
  rw [apply_append, apply_append, apply_filled hhalves, apply_before haround.before,
    apply_after haround.after, SourceUnit.numberFrom_append, hnumber, SourceUnit.numberFrom,
    List.append_assoc]
  refine hxs.append ?_
  have hhead := Content.of_stripComment hfirst k.number
  have hsplit : k.halves = filled [(k.number, k.front)] ++ filled [(k.number + 1, k.back)] :=
    filled_append [(k.number, k.front)] [(k.number + 1, k.back)]
  rw [hsplit, List.append_assoc]
  refine @Content.append [(k.number, first)] _ _ _ hhead ?_
  cases rest with
  | nil =>
      cases hys
      have hback : [] = k.back := Except.ok.inj hsecond
      rw [← hback]
      exact .nil
  | cons second rest =>
      rw [SourceUnit.numberFrom]
      exact @Content.append [(k.number + 1, second)] _ _ _
        (Content.of_stripComment hsecond (k.number + 1)) hys.shift

end Overlay
