import Overlay.Proofs.Break.Content
import Overlay.Proofs.Outline.Block

/-!
Blocks that lines open and close. A block is read to its end just when its lines
open as many blocks as they close, and so a line may be cut in a block if its
halves open and close as many blocks as the line does.
-/

namespace Overlay

open Text

/-- What stands before the blanks and the `do` does not end with a blank, unless there is
nothing else before them: then it is the first blank. -/
theorem Text.beforeDo?_eq_some_iff {t part : Text} : t.beforeDo? = some part ↔
    part ≠ [] ∧ '\n' ∉ part ∧ (EndsSolid part ∨ ∃ c, part = [c]) ∧
      ∃ b : Text, b ≠ [] ∧ b.allBlank = true ∧ t = part ++ b ++ ['d', 'o'] := by
  simp only [beforeDo?, Option.bind_eq_bind, Option.bind_eq_some_iff, dropSuffix?_eq_some_iff,
    Option.ite_none_right_eq_some, Option.some.injEq]
  constructor
  · rintro ⟨body, rfl, ⟨hlt, hline⟩, rfl⟩
    obtain ⟨b, hb, hbody⟩ := exists_dropBlankEnd body
    have hend := endsSolid_dropBlankEnd body
    generalize body.dropBlankEnd = x at *
    subst hbody
    cases x with
    | nil =>
        -- If all is blank, the part is the first blank, since it has at least one character.
        obtain ⟨c, b, rfl⟩ : ∃ c b', b = c :: b' := by
          cases b with
          | nil => simp at hlt
          | cons c b => exact ⟨c, b, rfl⟩
        refine ⟨by simp, by simpa using hline, .inr ⟨c, rfl⟩, b, ?_, (allBlank_cons.1 hb).2, rfl⟩
        rintro rfl
        simp at hlt
    | cons c x =>
        have hsize : max 1 (c :: x).length = (c :: x).length := Nat.max_eq_right (by simp)
        rw [hsize, List.take_left] at hline ⊢
        rw [hsize, List.length_append] at hlt
        refine ⟨List.cons_ne_nil _ _, by simpa using hline, .inl hend, b, ?_, hb, rfl⟩
        rintro rfl
        simp at hlt
  · rintro ⟨hne, hline, hshape, b, hbne, hb, rfl⟩
    have hsize : max 1 (dropBlankEnd (part ++ b)).length = part.length := by
      rw [dropBlankEnd_append hb]
      obtain ⟨b', hb', hpart⟩ := exists_dropBlankEnd part
      rcases hshape with hend | ⟨c, rfl⟩
      · rw [dropBlankEnd_of_endsSolid hend]
        exact Nat.max_eq_right (List.length_pos_iff.2 hne)
      · have hlen := congrArg List.length hpart
        rw [List.length_append, List.length_singleton] at hlen
        rw [List.length_singleton]
        omega
    have hpos := List.length_pos_iff.2 hbne
    refine ⟨part ++ b, rfl, ?_, ?_⟩
    · rw [hsize, List.take_left, List.length_append]
      exact ⟨by omega, by simpa using hline⟩
    · rw [hsize, List.take_left]

namespace Construct

/-- How many more blocks are open after a line than before it. -/
def rise (t : Text) : Int := if isEnd t then -1 else if isHeader t then 1 else 0

/-- How many more blocks are open after some lines than before them. -/
def rises : List Text → Int
  | [] => 0
  | t :: ts => rise t + rises ts

@[simp] theorem rise_nil : rise [] = 0 := by decide

@[simp] theorem rises_nil : rises [] = 0 := rfl

@[simp] theorem rises_cons (t : Text) (ts : List Text) : rises (t :: ts) = rise t + rises ts := rfl

@[simp] theorem rises_append (ts us : List Text) : rises (ts ++ us) = rises ts + rises us := by
  induction ts with
  | nil => simp
  | cons t ts ih =>
      rw [List.cons_append, rises_cons, rises_cons, ih]
      omega

theorem depthAfter_eq {depth : Nat} (h : depth ≠ 0) (t : Text) :
    (depthAfter depth t : Int) = depth + rise t := by
  unfold depthAfter rise
  split
  · omega
  · split
    · omega
    · omega

/-- A header is any text with blanks and a `do` behind it, on one line. -/
theorem isHeader_iff {t : Text} : isHeader t = true ↔
    ∃ x b, t = x ++ b ++ ['d', 'o'] ∧ x ≠ [] ∧ '\n' ∉ x ∧ b ≠ [] ∧ b.allBlank = true := by
  constructor
  · intro h
    obtain ⟨part, hpart⟩ := Option.isSome_iff_exists.1 h
    obtain ⟨hne, hline, -, b, hbne, hb, heq⟩ := beforeDo?_eq_some_iff.1 hpart
    exact ⟨part, b, heq, hne, hline, hbne, hb⟩
  · rintro ⟨x, b, rfl, hx, hline, hne, hb⟩
    obtain ⟨b', hb', hsplit⟩ := exists_dropBlankEnd x
    have hend := endsSolid_dropBlankEnd x
    refine Option.isSome_iff_exists.2 ?_
    cases hpart : x.dropBlankEnd with
    | nil =>
        -- All of it is blank, and its first character stands for the part before.
        rw [hpart, List.nil_append] at hsplit
        obtain ⟨c, x, rfl⟩ := List.exists_cons_of_ne_nil hx
        rw [← hsplit, allBlank_cons] at hb'
        have hfeed : '\n' ∉ [c] := fun hmem => hline (List.mem_append_left x hmem)
        exact ⟨[c], beforeDo?_eq_some_iff.2 ⟨List.cons_ne_nil c [], hfeed, .inr ⟨c, rfl⟩, x ++ b,
          by simp [hne], allBlank_append.2 ⟨hb'.2, hb⟩, by simp⟩⟩
    | cons c y =>
        rw [hpart] at hsplit hend
        subst hsplit
        have hfeed : '\n' ∉ c :: y := fun hmem => hline (List.mem_append_left b' hmem)
        exact ⟨c :: y, beforeDo?_eq_some_iff.2 ⟨List.cons_ne_nil c y, hfeed, .inl hend, b' ++ b,
          by simp [hne], allBlank_append.2 ⟨hb', hb⟩, by simp⟩⟩

theorem isEnd_eq_true_iff {t : Text} : isEnd t = true ↔ t = ['e', 'n', 'd'] := by simp [isEnd]

theorem rise_nonneg_iff {t : Text} : 0 ≤ rise t ↔ t ≠ ['e', 'n', 'd'] := by
  unfold rise
  split
  · next h => simp [isEnd_eq_true_iff.1 h]
  · next h =>
    refine ⟨fun _ ht => h (isEnd_eq_true_iff.2 ht), fun _ => ?_⟩
    split
    · decide
    · decide

theorem isEnd_eq_false_of_isHeader {t : Text} (h : isHeader t = true) : isEnd t = false := by
  obtain ⟨x, b, rfl, -⟩ := isHeader_iff.1 h
  cases hend : isEnd (x ++ b ++ ['d', 'o']) with
  | false => rfl
  | true =>
      have hlast := congrArg List.getLast? (isEnd_eq_true_iff.1 hend)
      simp at hlast

theorem rise_eq_one_iff {t : Text} : rise t = 1 ↔ isHeader t = true := by
  unfold rise
  constructor
  · intro h
    split at h
    · cases h
    · split at h
      · assumption
      · cases h
  · intro h
    rw [if_pos h, isEnd_eq_false_of_isHeader h]
    rfl

theorem rise_le_one (t : Text) : rise t ≤ 1 := by
  unfold rise
  split
  · decide
  · split
    · decide
    · decide

section

variable {front gap back : Text} (hgap : IsGap gap)

include hgap

/-- A line with a gap in it does not close a block. -/
theorem rise_whole_nonneg : 0 ≤ rise (front ++ (gap ++ back)) := by
  rw [rise_nonneg_iff]
  intro heq
  obtain ⟨c, rest, rfl⟩ := List.exists_cons_of_ne_nil hgap.nonempty
  have hblank := (allBlank_cons.1 hgap.blank).1
  have hmem : c ∈ (['e', 'n', 'd'] : Text) := by
    rw [← heq]
    simp
  rcases List.mem_cons.1 hmem with rfl | hmem
  · cases hblank
  · rcases List.mem_cons.1 hmem with rfl | hmem
    · cases hblank
    · obtain rfl := List.mem_singleton.1 hmem
      cases hblank

/-- The first half of a line does not close a block either: a header behind an
`end` would make the whole line a header. -/
theorem rise_front_nonneg (hrise : rise front + rise back = rise (front ++ (gap ++ back))) :
    0 ≤ rise front := by
  have hwhole := @rise_whole_nonneg front gap back hgap
  by_contra hneg
  have hfront : front = ['e', 'n', 'd'] := by
    rw [rise_nonneg_iff] at hneg
    simpa using hneg
  have hend : rise front = -1 := by
    rw [hfront]
    rfl
  have hback : rise back = 1 := by
    have hle := rise_le_one back
    omega
  obtain ⟨x, b, rfl, hx, hline, hb, hblank⟩ := isHeader_iff.1 (rise_eq_one_iff.1 hback)
  have hheader : isHeader (front ++ (gap ++ (x ++ b ++ ['d', 'o']))) = true := by
    refine isHeader_iff.2 ⟨front ++ (gap ++ x), b, by simp, by simp [hx], ?_, hb, hblank⟩
    simp [hfront, hgap.line, hline]
  have hone := rise_eq_one_iff.2 hheader
  omega

/-- The depth goes on after the halves as it does after the line, and in between
no block comes to its end. -/
theorem depthAfter_halves (hrise : rise front + rise back = rise (front ++ (gap ++ back)))
    {depth : Nat} (hdepth : depth ≠ 0) : depthAfter depth front ≠ 0 ∧
      depthAfter (depthAfter depth front) back = depthAfter depth (front ++ (gap ++ back)) := by
  have hfront := depthAfter_eq hdepth front
  have hnonneg := rise_front_nonneg hgap hrise
  have hopen : depthAfter depth front ≠ 0 := by omega
  refine ⟨hopen, ?_⟩
  have hback := depthAfter_eq hopen back
  have hwhole := depthAfter_eq hdepth (front ++ (gap ++ back))
  omega

end

theorem blockDepth_append {ts : List Text} (hne : ts ≠ []) (us : List Text) :
    blockDepth (ts ++ us) = us.foldl depthAfter (blockDepth ts) := by
  obtain ⟨t, ts, rfl⟩ := List.exists_cons_of_ne_nil hne
  simp [blockDepth]

/-- What is not read to its end has not ended. -/
theorem Fills.unfinished {c : Construct} {done xs ys : List Text} (h : Fills c done (xs ++ ys))
    (hxs : xs ≠ []) (hys : ys ≠ []) : c.ends (done ++ xs) = .ok false := by
  induction xs generalizing done with
  | nil => exact absurd rfl hxs
  | cons x xs ih =>
      generalize hts : x :: xs ++ ys = ts at h
      cases h with
      | last _ =>
          obtain ⟨-, hnil⟩ := List.cons.inj hts
          exact absurd (List.append_eq_nil_iff.1 hnil).2 hys
      | more hopen h =>
          obtain ⟨rfl, rfl⟩ := List.cons.inj hts
          by_cases hne : xs = []
          · subst hne
            exact hopen
          · have ih := ih h hne
            rwa [List.append_assoc, List.singleton_append] at ih

theorem rises_of_fills_after {c : Construct} (hblock : c.isBlock = true) {done ts : List Text}
    (h : Fills c done ts) (hne : done ≠ []) (hdepth : blockDepth done ≠ 0) :
    rises ts = -(blockDepth done : Int) := by
  induction h with
  | @last done t h =>
      have hzero := (ends_block_iff hblock).1 h
      rw [blockDepth_concat hne, beq_iff_eq] at hzero
      have hrise := depthAfter_eq hdepth t
      rw [rises_cons, rises_nil]
      omega
  | @more done t ts h _ ih =>
      have hopen := (ends_block_iff hblock).1 h
      rw [beq_eq_false_iff_ne] at hopen
      have hrise := depthAfter_eq hdepth t
      have hrest := ih (by simp) hopen
      rw [blockDepth_concat hne] at hrest
      rw [rises_cons]
      omega

/-- A block that is read to its end closes all blocks that it opens. -/
theorem rises_of_fills {c : Construct} (hblock : c.isBlock = true) {t : Text} {ts : List Text}
    (hheader : isHeader t = true) (h : Fills c [] (t :: ts)) : rises (t :: ts) = 0 := by
  cases h with
  | last h => simp [ends_block_iff hblock, blockDepth] at h
  | more _ h =>
      have hrest := rises_of_fills_after hblock h (List.cons_ne_nil _ _) Nat.one_ne_zero
      rw [rises_cons, rise_eq_one_iff.2 hheader, hrest]
      rfl

theorem isHeader_of_opens {c : Construct} (hblock : c.isBlock = true) {t : Text}
    (h : c.opens t = true) : isHeader t = true := by
  have hword {word : Text} (hne : word ≠ []) (hline : '\n' ∉ word)
      (h : isBlockHeader word t = true) : isHeader t = true := by
    rw [isBlockHeader, beq_iff_eq, Option.bind_eq_some_iff] at h
    obtain ⟨rest, hrest, hdo⟩ := h
    rw [dropPrefix?_eq_some_iff] at hrest
    subst hrest
    unfold afterBlanks? at hdo
    split at hdo
    · next c rest =>
      split at hdo
      · next hc =>
        obtain ⟨b, hb, hsplit⟩ := exists_dropBlank (c :: rest)
        rw [Option.some.inj hdo] at hsplit
        refine isHeader_iff.2 ⟨word, b, by rw [hsplit, List.append_assoc], hne, hline, ?_, hb⟩
        rintro rfl
        obtain ⟨rfl, -⟩ := List.cons.inj hsplit
        cases hc
      · cases hdo
    · cases hdo
  cases c with
  | stateBlock => exact hword (by decide) (by decide) h
  | bloomBlock => exact hword (by decide) (by decide) h
  | eventBlock => exact h
  | service => cases hblock
  | scratch => cases hblock
  | channel => cases hblock
  | transmission => cases hblock
  | trigger => cases hblock
  | merge => cases hblock

end Construct

end Overlay
