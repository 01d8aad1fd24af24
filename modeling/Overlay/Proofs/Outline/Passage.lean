import Overlay.Proofs.Outline.Content
import Overlay.Source.Item

/-!
Passages. A passage is the content of one item: a construct ends with the last
of its texts and not before, and the first text begins it. The items of a unit
are the passages into which its content can be cut.
-/

namespace Overlay

open Text

namespace Construct

/-- How many blocks are open after a line, if so many were open before. -/
def depthAfter (depth : Nat) (t : Text) : Nat :=
  if isEnd t then depth - 1 else if isHeader t then depth + 1 else depth

/-- How many blocks are open at the end of the texts of a block. -/
def blockDepth (ts : List Text) : Nat := ts.tail.foldl depthAfter 1

/-- Whether a construct ends with the last of its texts. -/
def ends (c : Construct) (ts : List Text) : Except Fault Bool :=
  if c.isBlock then .ok (blockDepth ts == 0)
  else (bracketDepth ([' '].intercalate ts)).map (· == 0)

theorem ends_block {c : Construct} (hblock : c.isBlock = true) (ts : List Text) :
    c.ends ts = .ok (blockDepth ts == 0) := if_pos hblock

theorem ends_block_iff {c : Construct} (hblock : c.isBlock = true) {ts : List Text} {b : Bool} :
    c.ends ts = .ok b ↔ (blockDepth ts == 0) = b := by
  rw [ends_block hblock, Except.ok.injEq]

theorem ends_leaf {c : Construct} (hleaf : c.isBlock = false) (ts : List Text) :
    c.ends ts = (bracketDepth ([' '].intercalate ts)).map (· == 0) := by
  rw [ends, hleaf, if_neg Bool.false_ne_true]

theorem ends_leaf_iff {c : Construct} (hleaf : c.isBlock = false) {ts : List Text} :
    c.ends ts = .ok true ↔ bracketDepth ([' '].intercalate ts) = .ok 0 := by
  rw [ends_leaf hleaf]
  cases bracketDepth ([' '].intercalate ts) <;> simp [Except.map]

/-- Whether a construct of which some texts were read ends with the last of the
texts that follow, and with none before. -/
inductive Fills (c : Construct) : List Text → List Text → Prop
  | last {done : List Text} {t : Text} : c.ends (done ++ [t]) = .ok true → Fills c done [t]
  | more {done : List Text} {t : Text} {ts : List Text} : c.ends (done ++ [t]) = .ok false →
      Fills c (done ++ [t]) ts → Fills c done (t :: ts)

theorem blockDepth_concat {ts : List Text} (hne : ts ≠ []) (t : Text) :
    blockDepth (ts ++ [t]) = depthAfter (blockDepth ts) t := by
  obtain ⟨u, ts, rfl⟩ := List.exists_cons_of_ne_nil hne
  simp [blockDepth]

theorem Fills.ne_nil {c : Construct} {done ts : List Text} (h : Fills c done ts) : ts ≠ [] := by
  cases h with
  | last => exact List.cons_ne_nil _ _
  | more => exact List.cons_ne_nil _ _

theorem Fills.ends {c : Construct} {done ts : List Text} (h : Fills c done ts) :
    c.ends (done ++ ts) = .ok true := by
  induction h with
  | last h => exact h
  | more _ _ ih => rwa [List.append_assoc, List.singleton_append] at ih

/-- Texts of which the first begin a construct alike, and that do not end it
otherwise, fill it alike. -/
theorem Fills.congr {c : Construct} {done done' ts : List Text} (h : Fills c done ts)
    (hends : ∀ {us b}, us ≠ [] → c.ends (done ++ us) = .ok b → c.ends (done' ++ us) = .ok b) :
    Fills c done' ts := by
  induction h generalizing done' with
  | last h => exact .last (hends (List.cons_ne_nil _ _) h)
  | more h _ ih =>
      refine .more (hends (List.cons_ne_nil _ _) h) (ih fun {us b} _ hus => ?_)
      rw [List.append_assoc] at hus ⊢
      exact hends (by simp) hus

/-- What was read to its end can be given another end after any of its texts. -/
theorem Fills.split {c : Construct} {done xs ys : List Text} (hne : ys ≠ [])
    (h : Fills c done (xs ++ ys)) : Fills c (done ++ xs) ys ∧
      ∀ zs, Fills c (done ++ xs) zs → Fills c done (xs ++ zs) := by
  induction xs generalizing done with
  | nil =>
      rw [List.append_nil]
      exact ⟨h, fun zs hzs => hzs⟩
  | cons x xs ih =>
      generalize hts : x :: xs ++ ys = ts at h
      cases h with
      | last h =>
          obtain ⟨-, hnil⟩ := List.cons.inj hts
          exact absurd (List.append_eq_nil_iff.1 hnil).2 hne
      | more hx h =>
          obtain ⟨rfl, rfl⟩ := List.cons.inj hts
          obtain ⟨hrest, hend⟩ := ih h
          rw [List.append_assoc, List.singleton_append] at hrest hend
          exact ⟨hrest, fun zs hzs => .more hx (hend zs hzs)⟩

end Construct

/-- The texts of one item, of a construct that is one of the candidates. -/
structure IsPassage (candidates : List Construct) (c : Construct) (ts : List Text) : Prop where
  begins : candidates.find? (·.opens (ts.headD [])) = some c
  fills : c.Fills [] ts

/-- Whether a sequence of lines begins with one that holds something. -/
def StartsFilled (lines : List (Nat × Text)) : Prop :=
  ∃ l rest t, lines = l :: rest ∧ l.2.stripComment = .ok t ∧ t ≠ []

/-- Whether a sequence of lines ends with one that holds something. -/
def EndsFilled (lines : List (Nat × Text)) : Prop :=
  ∃ l rest t, lines = rest ++ [l] ∧ l.2.stripComment = .ok t ∧ t ≠ []

namespace Item

/-- Whether an item has a content, which begins on its first line and ends on
its last one. -/
structure Holds (i : Item) (cs : List (Nat × Text)) : Prop where
  content : Content i.unit.numberedLines cs
  text : i.unit.text = [' '].intercalate (texts cs)
  starts : StartsFilled i.unit.numberedLines
  ends : EndsFilled i.unit.numberedLines

theorem Holds.unique {i : Item} {cs ds : List (Nat × Text)} (h : i.Holds cs) (h' : i.Holds ds) :
    cs = ds := h.content.unique h'.content

namespace Open

/-- Whether an item that is being read has a content so far. -/
structure Holds (o : Open) (cs : List (Nat × Text)) : Prop where
  content : Content (SourceUnit.numberFrom o.first o.lines) cs
  starts : StartsFilled (SourceUnit.numberFrom o.first o.lines)
  text : o.construct.isBlock = false → o.text = [' '].intercalate (texts cs)
  depth : o.construct.isBlock = true → o.depth = Construct.blockDepth (texts cs)

theorem Holds.ne_nil {o : Open} {cs : List (Nat × Text)} (h : o.Holds cs) : cs ≠ [] := by
  rintro rfl
  obtain ⟨l, rest, t, hlines, ht, hne⟩ := h.starts
  have hcontent := h.content
  rw [hlines] at hcontent
  cases hcontent with
  | blank hblank _ =>
      rw [hblank] at ht
      cases ht
      exact hne rfl

theorem Holds.isComplete_eq {o : Open} {cs : List (Nat × Text)} (h : o.Holds cs) :
    o.isComplete = o.construct.ends (texts cs) := by
  unfold isComplete Construct.ends
  cases hblock : o.construct.isBlock with
  | true => simp [h.depth hblock]
  | false => simp [h.text hblock]

theorem holds_start {line t : Text} (c : Construct) (number : Nat)
    (hline : line.stripComment = .ok t) (hne : t ≠ []) :
    (start c number line t).Holds [(number, t)] where
  content := .line hline hne .nil
  starts := ⟨_, [], t, rfl, hline, hne⟩
  text := fun _ => List.intercalate_singleton.symm
  depth := fun _ => rfl

@[simp] theorem construct_feed (o : Open) (line t : Text) :
    (o.feed line t).construct = o.construct := by
  unfold feed
  grind

@[simp] theorem first_feed (o : Open) (line t : Text) : (o.feed line t).first = o.first := by
  unfold feed
  grind

@[simp] theorem lines_feed (o : Open) (line t : Text) :
    (o.feed line t).lines = o.lines ++ [line] := by
  unfold feed
  grind

theorem text_feed {o : Open} (hblock : o.construct.isBlock = false) (line t : Text) :
    (o.feed line t).text = if t.isEmpty then o.text else o.text ++ ' ' :: t := by
  simp only [feed, hblock, Bool.false_eq_true, if_false]
  split
  · rfl
  · rfl

theorem depth_feed {o : Open} (hblock : o.construct.isBlock = true) (line t : Text) :
    (o.feed line t).depth = Construct.depthAfter o.depth t := by
  simp only [feed, hblock, if_true, Construct.depthAfter]
  split
  · rfl
  · split
    · rfl
    · rfl

theorem numbered_feed (o : Open) (line t : Text) :
    SourceUnit.numberFrom (o.feed line t).first (o.feed line t).lines =
      SourceUnit.numberFrom o.first o.lines ++ [(o.first + o.lines.length, line)] := by
  rw [first_feed, lines_feed, SourceUnit.numberFrom_append]
  rfl

theorem first_add_length_feed {o : Open} {number : Nat} (h : o.first + o.lines.length = number)
    (line t : Text) : (o.feed line t).first + (o.feed line t).lines.length = number + 1 := by
  rw [first_feed, lines_feed, List.length_append, List.length_singleton]
  omega

theorem StartsFilled.append {lines : List (Nat × Text)} (h : StartsFilled lines)
    (more : List (Nat × Text)) : StartsFilled (lines ++ more) := by
  obtain ⟨l, rest, t, rfl, ht, hne⟩ := h
  exact ⟨l, rest ++ more, t, rfl, ht, hne⟩

/-- A blank line changes nothing. -/
theorem Holds.feed_blank {o : Open} {cs : List (Nat × Text)} {line : Text} (h : o.Holds cs)
    (hline : line.stripComment = .ok []) : (o.feed line []).Holds cs where
  content := by
    rw [numbered_feed]
    have hcontent := h.content.append
      (@Content.blank (o.first + o.lines.length) line [] [] hline .nil)
    rwa [List.append_nil] at hcontent
  starts := by
    rw [numbered_feed]
    exact StartsFilled.append h.starts _
  text := by
    intro hblock
    rw [construct_feed] at hblock
    rw [text_feed hblock]
    exact h.text hblock
  depth := by
    intro hblock
    rw [construct_feed] at hblock
    rw [depth_feed hblock, ← h.depth hblock]
    rfl

theorem Holds.isComplete_feed_blank {o : Open} {cs : List (Nat × Text)} {line : Text}
    (h : o.Holds cs) (hline : line.stripComment = .ok [])
    (hopen : o.construct.ends (texts cs) = .ok false) :
    (o.feed line []).isComplete = .ok false := by
  rw [(h.feed_blank hline).isComplete_eq, construct_feed, hopen]

theorem Holds.feed {o : Open} {cs : List (Nat × Text)} {line t : Text} (h : o.Holds cs)
    (hline : line.stripComment = .ok t) (hne : t ≠ []) :
    (o.feed line t).Holds (cs ++ [(o.first + o.lines.length, t)]) where
  content := by
    rw [numbered_feed]
    exact h.content.append (.line hline hne .nil)
  starts := by
    rw [numbered_feed]
    exact StartsFilled.append h.starts _
  text := by
    intro hblock
    rw [construct_feed] at hblock
    rw [text_feed hblock, if_neg (by simpa using hne), h.text hblock, texts_append, texts_cons,
      texts_nil, intercalate_append (by simpa using h.ne_nil) (List.cons_ne_nil _ _),
      List.intercalate_singleton,
      List.append_assoc]
    rfl
  depth := by
    intro hblock
    rw [construct_feed] at hblock
    rw [depth_feed hblock, h.depth hblock, texts_append, texts_cons, texts_nil,
      Construct.blockDepth_concat (by simpa using h.ne_nil)]

/-- The item of lines that were read to their end. -/
theorem Holds.close {o : Open} {cs : List (Nat × Text)} (h : o.Holds cs)
    (hends : EndsFilled (SourceUnit.numberFrom o.first o.lines)) :
    ∃ i, o.close = .ok i ∧ i.construct = o.construct ∧ i.Holds cs := by
  have hunit := SourceUnit.ofLines_eq_ok_iff.2 ⟨cs, h.content, rfl⟩
  refine ⟨⟨o.construct, ⟨o.first, o.lines, [' '].intercalate (texts cs)⟩⟩, ?_, rfl,
    h.content, rfl, h.starts, hends⟩
  rw [Open.close, hunit]
  rfl

theorem endsFilled_start (c : Construct) (number : Nat) {line t : Text}
    (hline : line.stripComment = .ok t) (hne : t ≠ []) :
    EndsFilled (SourceUnit.numberFrom (start c number line t).first
      (start c number line t).lines) :=
  ⟨_, [], t, rfl, hline, hne⟩

theorem endsFilled_feed (o : Open) {line t : Text} (hline : line.stripComment = .ok t)
    (hne : t ≠ []) :
    EndsFilled (SourceUnit.numberFrom (o.feed line t).first (o.feed line t).lines) := by
  rw [numbered_feed]
  exact ⟨_, _, t, rfl, hline, hne⟩

end Open

/-- The items of the rest of a unit, when a line was added to an item. -/
def resume (candidates : List Construct) (o : Open) (rest : List (Nat × Text)) :
    Except Diagnostic (List Item) :=
  match o.isComplete with
  | .error cause => .error (o.diagnostic cause)
  | .ok false => listFrom candidates (some o) rest
  | .ok true => do
    let item ← o.close
    let items ← listFrom candidates none rest
    return item :: items

section

variable {candidates : List Construct} {number : Nat} {line t : Text} {rest : List (Nat × Text)}

theorem listFrom_blank (hline : line.stripComment = .ok []) :
    listFrom candidates none ((number, line) :: rest) = listFrom candidates none rest := by
  rw [listFrom, hline]

theorem listFrom_first (hline : line.stripComment = .ok t) (hne : t ≠ []) :
    listFrom candidates none ((number, line) :: rest) =
      (begin? candidates number line t >>= fun o => resume candidates o rest) := by
  rw [listFrom, hline]
  cases t with
  | nil => exact absurd rfl hne
  | cons c t => rfl

theorem listFrom_next (o : Open) (hline : line.stripComment = .ok t) :
    listFrom candidates (some o) ((number, line) :: rest) =
      resume candidates (o.feed line t) rest := by
  rw [listFrom, hline]
  rfl

theorem listFrom_error {reading : Option Open} {cause : Fault}
    (hline : line.stripComment = .error cause) {items : List Item} :
    listFrom candidates reading ((number, line) :: rest) ≠ .ok items := by
  rw [listFrom, hline]
  nofun

theorem resume_of_more {o : Open} (h : o.isComplete = .ok false) :
    resume candidates o rest = listFrom candidates (some o) rest := by
  rw [resume, h]

theorem resume_of_last {o : Open} (h : o.isComplete = .ok true) :
    resume candidates o rest = (o.close >>= fun item =>
      listFrom candidates none rest >>= fun items => .ok (item :: items)) := by
  rw [resume, h]
  rfl

end

/-- Whether an item was read from a passage of the content. -/
structure IsRead (candidates : List Construct) (i : Item) (cs : List (Nat × Text)) : Prop where
  passage : IsPassage candidates i.construct (texts cs)
  holds : i.Holds cs

end Item

end Overlay
