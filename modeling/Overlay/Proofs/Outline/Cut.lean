import Overlay.Proofs.Break.Blocks

/-!
Lines of items. The lines of a unit are cut into those of its items, with blank
lines between them, and the lines of a block into its header line, its body and
its `end`. So no line that holds something is lost, and none is used twice.
-/

namespace Overlay

open Text

/-- Whether a line holds more than blanks and a comment. -/
def HoldsText (l : Nat × Text) : Prop := l.2.stripComment ≠ .ok []

instance : DecidablePred HoldsText := fun l =>
  inferInstanceAs (Decidable (l.2.stripComment ≠ .ok []))

namespace SourceUnit

theorem numberFrom_take (number count : Nat) (lines : List Text) :
    (numberFrom number lines).take count = numberFrom number (lines.take count) := by
  induction lines generalizing number count with
  | nil => simp [numberFrom]
  | cons line lines ih =>
      cases count with
      | zero => rfl
      | succ count => rw [numberFrom, List.take_succ_cons, ih, List.take_succ_cons, numberFrom]

theorem numberFrom_drop (number count : Nat) (lines : List Text) :
    (numberFrom number lines).drop count = numberFrom (number + count) (lines.drop count) := by
  induction lines generalizing number count with
  | nil => simp [numberFrom]
  | cons line lines ih =>
      cases count with
      | zero => rfl
      | succ count =>
          rw [numberFrom, List.drop_succ_cons, ih, List.drop_succ_cons, Nat.add_right_comm]
          rfl

@[simp] theorem length_numberFrom (number : Nat) (lines : List Text) :
    (numberFrom number lines).length = lines.length := by
  simpa using congrArg List.length (numbers_numberFrom number lines)

/-- A slice keeps the numbers of the lines. -/
theorem numberedLines_slice {u v : SourceUnit} {start stop : Nat} (h : u.slice start stop = .ok v) :
    v.numberedLines = (u.numberedLines.take stop).drop start := by
  rw [slice, ofLines_eq_ok_iff] at h
  obtain ⟨cs, -, rfl⟩ := h
  rw [numberedLines, numberedLines, numberFrom_take, numberFrom_drop]
  have htake : u.lines.take (min stop u.lines.length) = u.lines.take stop := by
    rw [← List.take_eq_take_min]
  rw [htake]
  have hlen : (u.lines.take stop).length = min stop u.lines.length := List.length_take
  by_cases hle : start ≤ min stop u.lines.length
  · rw [Nat.min_eq_left hle]
  · have hnil {count : Nat} (h : min stop u.lines.length ≤ count) :
        (u.lines.take stop).drop count = [] := by
      rw [List.drop_eq_nil_iff, hlen]
      exact h
    rw [hnil (by omega), hnil (by omega)]
    rfl

/-- Whether one unit ends before another one begins. -/
def Before (u v : SourceUnit) : Prop := u.span.last < v.span.first

theorem before_of_numbers {u v : SourceUnit} (hu : u.lines ≠ []) (hv : v.lines ≠ [])
    (h : ∀ l ∈ u.numberedLines, ∀ m ∈ v.numberedLines, l.1 < m.1) : u.Before v := by
  have hlast : (u.first + (u.lines.length - 1)) ∈ u.numberedLines.map Prod.fst := by
    have hpos := List.length_pos_iff.2 hu
    rw [numberedLines, numbers_numberFrom, List.mem_range'_1]
    omega
  have hfirst : v.first ∈ v.numberedLines.map Prod.fst := by
    have hpos := List.length_pos_iff.2 hv
    rw [numberedLines, numbers_numberFrom, List.mem_range'_1]
    omega
  obtain ⟨l, hl, hnumber⟩ := List.mem_map.1 hlast
  obtain ⟨m, hm, hnumber'⟩ := List.mem_map.1 hfirst
  have hlt := h l hl m hm
  rw [hnumber, hnumber'] at hlt
  exact hlt

end SourceUnit

namespace Item

/-- Whether lines are those of some items, with blank lines between the items. -/
inductive CutInto : List (Nat × Text) → List Item → Prop
  | nil : CutInto [] []
  | blank {l : Nat × Text} {lines : List (Nat × Text)} {items : List Item} :
      ¬HoldsText l → CutInto lines items → CutInto (l :: lines) items
  | item {i : Item} {lines : List (Nat × Text)} {items : List Item} :
      CutInto lines items → CutInto (i.unit.numberedLines ++ lines) (i :: items)

theorem numberedLines_of_close {o : Open} {i : Item} (h : o.close = .ok i) :
    i.unit.numberedLines = SourceUnit.numberFrom o.first o.lines := by
  obtain ⟨u, hu, h⟩ := Except.bind_eq_ok_iff.1 h
  cases h
  obtain ⟨cs, -, rfl⟩ := SourceUnit.ofLines_eq_ok_iff.1 hu
  rfl

section

variable {candidates : List Construct} {o : Open} {lines : List (Nat × Text)} {items : List Item}

theorem cutInto_of_resume
    (hlast : ∀ {is}, listFrom candidates none lines = .ok is → CutInto lines is)
    (hmore : listFrom candidates (some o) lines = .ok items →
      CutInto (SourceUnit.numberFrom o.first o.lines ++ lines) items)
    (h : resume candidates o lines = .ok items) :
    CutInto (SourceUnit.numberFrom o.first o.lines ++ lines) items := by
  cases hcomplete : o.isComplete with
  | error cause =>
      rw [resume, hcomplete] at h
      cases h
  | ok b =>
      cases b with
      | false =>
          rw [resume_of_more hcomplete] at h
          exact hmore h
      | true =>
          rw [resume_of_last hcomplete] at h
          obtain ⟨i, hi, h⟩ := Except.bind_eq_ok_iff.1 h
          obtain ⟨is, his, h⟩ := Except.bind_eq_ok_iff.1 h
          cases h
          rw [← numberedLines_of_close hi]
          exact .item (hlast his)

end

/-- The lines of a unit are cut into those of its items; an item that is being
read takes the lines that were read for it along. -/
theorem cutInto_of_listFrom {candidates : List Construct} {number : Nat} {lines : List Text}
    {items : List Item} :
    (listFrom candidates none (SourceUnit.numberFrom number lines) = .ok items →
      CutInto (SourceUnit.numberFrom number lines) items) ∧
    ∀ {o}, o.first + o.lines.length = number →
      listFrom candidates (some o) (SourceUnit.numberFrom number lines) = .ok items →
      CutInto (SourceUnit.numberFrom o.first o.lines ++ SourceUnit.numberFrom number lines)
        items := by
  induction lines generalizing number items with
  | nil =>
      constructor
      · intro h
        cases h
        exact .nil
      · intro o _ h
        cases h
  | cons line lines ih =>
      rw [SourceUnit.numberFrom]
      cases hline : line.stripComment with
      | error cause =>
          exact ⟨fun h => absurd h (listFrom_error hline),
            fun _ h => absurd h (listFrom_error hline)⟩
      | ok t =>
          constructor
          · intro h
            by_cases hne : t = []
            · subst hne
              rw [listFrom_blank hline] at h
              exact .blank (not_not_intro hline) (ih.1 h)
            · rw [listFrom_first hline hne] at h
              obtain ⟨o, ho, h⟩ := Except.bind_eq_ok_iff.1 h
              obtain ⟨c, -, rfl⟩ := begin?_eq_ok_iff.1 ho
              exact cutInto_of_resume ih.1 (fun h => ih.2 rfl h) h
          · intro o hnumber h
            have hnumber' := Open.first_add_length_feed hnumber line t
            rw [listFrom_next o hline] at h
            have hcut := cutInto_of_resume ih.1 (fun h => ih.2 hnumber' h) h
            rwa [Open.numbered_feed, hnumber, List.append_assoc, List.singleton_append] at hcut

theorem cutInto_of_list {candidates : List Construct} {u : SourceUnit} {items : List Item}
    (h : list u candidates = .ok items) : CutInto u.numberedLines items :=
  cutInto_of_listFrom.1 h

namespace CutInto

variable {lines : List (Nat × Text)} {items : List Item}

/-- The lines that hold something are those of the items. -/
theorem filter_eq (h : CutInto lines items) :
    lines.filter (HoldsText ·) =
      (items.flatMap fun i => i.unit.numberedLines).filter (HoldsText ·) := by
  induction h with
  | nil => rfl
  | blank hblank _ ih => rw [List.filter_cons_of_neg (by simpa using hblank), ih]
  | item _ ih => rw [List.flatMap_cons, List.filter_append, List.filter_append, ih]

theorem sublist (h : CutInto lines items) :
    (items.flatMap fun i => i.unit.numberedLines).Sublist lines := by
  induction h with
  | nil => exact .slnil
  | blank _ _ ih => exact ih.cons _
  | item _ ih => exact ih.append_left _

/-- The lines of an item follow each other without a gap. -/
theorem isInfix (h : CutInto lines items) {i : Item} (hi : i ∈ items) :
    i.unit.numberedLines <:+: lines := by
  induction h with
  | nil => cases hi
  | blank _ _ ih => exact List.infix_cons (ih hi)
  | @item first lines items _ ih =>
      rcases List.mem_cons.1 hi with rfl | hi
      · exact (List.prefix_append _ _).isInfix
      · exact (ih hi).trans (List.suffix_append _ _).isInfix

/-- The items follow each other in the order of the lines. -/
theorem pairwise_before (h : CutInto lines items)
    (hsorted : (lines.map Prod.fst).Pairwise (· < ·)) (hne : ∀ i ∈ items, i.unit.lines ≠ []) :
    (items.map unit).Pairwise SourceUnit.Before := by
  have hnumbers := (List.pairwise_map.1 hsorted).sublist h.sublist
  rw [List.flatMap_def, List.pairwise_flatten] at hnumbers
  rw [List.pairwise_map]
  refine (List.pairwise_map.1 hnumbers.2).imp_of_mem fun hi hj hlt => ?_
  exact SourceUnit.before_of_numbers (hne _ hi) (hne _ hj) hlt

end CutInto

end Item

/-! The first and the last line of a block. -/

theorem Construct.isEnd_of_fills {c : Construct} (hblock : c.isBlock = true) {ts : List Text}
    {t : Text} (hne : ts ≠ []) (h : c.Fills [] (ts ++ [t])) : isEnd t = true := by
  have hopen := (ends_block_iff hblock).1 (h.unfinished hne (List.cons_ne_nil _ _))
  have hclosed := (ends_block_iff hblock).1 h.ends
  -- The depth is not zero before the last line but zero after it.
  rw [List.nil_append, beq_eq_false_iff_ne] at hopen
  rw [List.nil_append, beq_iff_eq, blockDepth_concat hne, depthAfter] at hclosed
  split at hclosed
  · assumption
  · split at hclosed
    · omega
    · exact absurd hclosed hopen

namespace SourceUnit

def headerLine (u : SourceUnit) : List (Nat × Text) := u.numberedLines.take 1

def endLine (u : SourceUnit) : List (Nat × Text) := u.numberedLines.drop (u.lines.length - 1)

/-- The lines of a block but for its body. -/
def frame (u : SourceUnit) : List (List (Nat × Text)) := [u.headerLine, u.endLine]

/-- Whether the first line of a unit begins a construct and its last is `end`. -/
structure IsFramed (c : Construct) (u : SourceUnit) : Prop where
  header : ∃ number line t, u.headerLine = [(number, line)] ∧ line.stripComment = .ok t ∧
    c.opens t = true
  terminator : ∃ number line, u.endLine = [(number, line)] ∧
    line.stripComment = .ok "end".toList

end SourceUnit

namespace Item

theorem Holds.lines_ne_nil {i : Item} {cs : List (Nat × Text)} (h : i.Holds cs) :
    i.unit.lines ≠ [] := by
  obtain ⟨l, rest, t, heq, -⟩ := h.starts
  intro hnil
  rw [SourceUnit.numberedLines, hnil] at heq
  cases heq

theorem exists_isRead_of_mem {candidates : List Construct} {u : SourceUnit} {items : List Item}
    (h : list u candidates = .ok items) {i : Item} (hi : i ∈ items) :
    ∃ cs, IsRead candidates i cs := by
  obtain ⟨css, -, hall⟩ := readsAs_of_list h
  obtain ⟨cs, -, hread⟩ := forall₂_exists_of_mem_left hall hi
  exact ⟨cs, hread⟩

/-- A block consists of its header line, its body and its `end`. -/
theorem IsRead.block {candidates : List Construct} {i : Item} {cs : List (Nat × Text)}
    (h : IsRead candidates i cs) (hblock : i.construct.isBlock = true) {body : SourceUnit}
    (hbody : i.body = .ok body) : i.unit.IsFramed i.construct ∧
      i.unit.numberedLines = i.unit.headerLine ++ body.numberedLines ++ i.unit.endLine := by
  have hlen : 2 ≤ cs.length := by simpa [texts] using h.passage.fills.two_le hblock
  obtain ⟨l, middle, l', t, inner, t', hlines, rfl, ht, -, ht', -⟩ :=
    exists_middle_of_content h.holds.content h.holds.starts h.holds.ends hlen
  -- Its first and its last line hold a text each, and the body is what lies between them.
  have hcount : i.unit.lines.length = middle.length + 2 := by
    rw [← SourceUnit.length_numberFrom i.unit.first, ← SourceUnit.numberedLines, hlines]
    simp
  have hheader : i.unit.headerLine = [l] := by
    rw [SourceUnit.headerLine, hlines]
    rfl
  have hend : i.unit.endLine = [l'] := by
    rw [SourceUnit.endLine, hlines, hcount]
    exact List.drop_left' rfl
  have hmiddle : body.numberedLines = middle := by
    have hinner : i.unit.lines.length - 1 = (l :: middle).length := by rw [hcount]; rfl
    rw [SourceUnit.numberedLines_slice hbody, hlines, hinner, List.take_left' rfl]
    rfl
  refine ⟨⟨?header, ?terminator⟩, ?cut⟩
  case header =>
    have hopens := List.find?_some h.passage.begins
    exact ⟨l.1, l.2, t, hheader, ht, hopens⟩
  case terminator =>
    have hfills := h.passage.fills
    rw [texts_append] at hfills
    have htext : Construct.isEnd t' = true := Construct.isEnd_of_fills hblock (by simp) hfills
    rw [Construct.isEnd_eq_true_iff.1 htext] at ht'
    exact ⟨l'.1, l'.2, hend, ht'⟩
  case cut =>
    rw [hheader, hend, hmiddle, hlines]
    rfl

end Item

end Overlay
