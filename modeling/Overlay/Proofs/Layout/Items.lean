import Overlay.Proofs.Layout.Agreement
import Overlay.Proofs.Outline.Block

/-!
Lines in two layouts. Two sequences of lines hold the same texts when they differ
only in lines that hold nothing and in the blanks and comments around the texts.
The items that are read from them agree: as many of the same constructs, which
again hold the same texts, or a failure for the same reason.
-/

namespace Overlay

open Text

/-- Lines in two layouts. A line that holds nothing may stand in one of them, and
any other line stands in both, with the same text. -/
inductive Relaid : List (Nat × Text) → List (Nat × Text) → Prop
  | nil : Relaid [] []
  | blankLeft {number : Nat} {line : Text} {lines lines' : List (Nat × Text)} :
      line.stripComment = .ok [] → Relaid lines lines' → Relaid ((number, line) :: lines) lines'
  | blankRight {number : Nat} {line : Text} {lines lines' : List (Nat × Text)} :
      line.stripComment = .ok [] → Relaid lines lines' → Relaid lines ((number, line) :: lines')
  | line {number number' : Nat} {line line' t : Text} {lines lines' : List (Nat × Text)} :
      line.stripComment = .ok t → line'.stripComment = .ok t → t ≠ [] → Relaid lines lines' →
      Relaid ((number, line) :: lines) ((number', line') :: lines')

theorem Relaid.of_content {lines lines' cs cs' : List (Nat × Text)} (h : Content lines cs)
    (h' : Content lines' cs') (htexts : texts cs' = texts cs) : Relaid lines lines' := by
  induction h generalizing lines' cs' with
  | nil =>
      obtain rfl := texts_eq_nil_iff.1 htexts
      generalize hcs : ([] : List (Nat × Text)) = cs at h'
      induction h' with
      | nil => exact .nil
      | blank hblank _ ih => exact .blankRight hblank (ih hcs)
      | line => cases hcs
  | blank hblank _ ih => exact .blankLeft hblank (ih h' htexts)
  | line hline hne _ ih =>
      -- The line stands behind some blank lines of the other layout.
      induction h' with
      | nil => cases htexts
      | blank hblank _ ih' => exact .blankRight hblank (ih' htexts)
      | line hline' _ h' _ =>
          obtain ⟨rfl, hrest⟩ := List.cons.inj htexts
          exact .line hline hline' hne (ih h' hrest)

namespace Item

/-- Whether two items are of one construct and hold the same texts. -/
structure SameTexts (i i' : Item) : Prop where
  construct : i'.construct = i.construct
  contents : ∃ cs cs', i.Holds cs ∧ i'.Holds cs' ∧ texts cs' = texts cs

namespace Open

/-- Whether two items of one construct hold the same texts so far. -/
structure SameTexts (o o' : Open) : Prop where
  construct : o'.construct = o.construct
  contents : ∃ cs cs', o.Holds cs ∧ o'.Holds cs' ∧ texts cs' = texts cs

variable {o o' : Open} {line line' t : Text}

theorem sameTexts_start {number number' : Nat} (c : Construct) (hline : line.stripComment = .ok t)
    (hline' : line'.stripComment = .ok t) (hne : t ≠ []) :
    (start c number line t).SameTexts (start c number' line' t) where
  construct := rfl
  contents := ⟨_, _, holds_start c number hline hne, holds_start c number' hline' hne, rfl⟩

namespace SameTexts

theorem symm (h : o.SameTexts o') : o'.SameTexts o where
  construct := h.construct.symm
  contents := by
    obtain ⟨cs, cs', hcs, hcs', htexts⟩ := h.contents
    exact ⟨cs', cs, hcs', hcs, htexts.symm⟩

theorem isComplete_eq (h : o.SameTexts o') : o'.isComplete = o.isComplete := by
  obtain ⟨cs, cs', hcs, hcs', htexts⟩ := h.contents
  rw [hcs.isComplete_eq, hcs'.isComplete_eq, htexts, h.construct]

/-- A blank line changes neither what an item holds nor whether it ends. -/
theorem feed_blank (h : o.SameTexts o') (hline : line.stripComment = .ok []) :
    (o.feed line []).SameTexts o' ∧ (o.feed line []).isComplete = o.isComplete := by
  obtain ⟨cs, cs', hcs, hcs', htexts⟩ := h.contents
  have hfed := hcs.feed_blank hline
  refine ⟨⟨?_, cs, cs', hfed, hcs', htexts⟩, ?_⟩
  · rw [construct_feed, h.construct]
  · rw [hfed.isComplete_eq, hcs.isComplete_eq, construct_feed]

theorem feed (h : o.SameTexts o') (hline : line.stripComment = .ok t)
    (hline' : line'.stripComment = .ok t) (hne : t ≠ []) :
    (o.feed line t).SameTexts (o'.feed line' t) := by
  obtain ⟨cs, cs', hcs, hcs', htexts⟩ := h.contents
  refine ⟨?_, _, _, hcs.feed hline hne, hcs'.feed hline' hne, ?_⟩
  · rw [construct_feed, construct_feed, h.construct]
  · rw [texts_append, texts_append, htexts]
    rfl

theorem close (h : o.SameTexts o') (hfilled : EndsFilled (SourceUnit.numberFrom o.first o.lines))
    (hfilled' : EndsFilled (SourceUnit.numberFrom o'.first o'.lines)) :
    Agree Item.SameTexts o.close o'.close := by
  obtain ⟨cs, cs', hcs, hcs', htexts⟩ := h.contents
  obtain ⟨i, hi, hconstruct, hholds⟩ := hcs.close hfilled
  obtain ⟨i', hi', hconstruct', hholds'⟩ := hcs'.close hfilled'
  rw [hi, hi']
  exact .ok ⟨hconstruct'.trans (h.construct.trans hconstruct.symm), cs, cs', hholds, hholds',
    htexts⟩

end SameTexts

end Open

section

variable {candidates : List Construct} {lines lines' : List (Nat × Text)} {o o' : Open}

theorem agree_begin? {number number' : Nat} {line line' t : Text}
    (hline : line.stripComment = .ok t) (hline' : line'.stripComment = .ok t) (hne : t ≠ []) :
    Agree (fun o o' => o.SameTexts o' ∧
        EndsFilled (SourceUnit.numberFrom o.first o.lines) ∧
        EndsFilled (SourceUnit.numberFrom o'.first o'.lines))
      (begin? candidates number line t) (begin? candidates number' line' t) := by
  unfold begin?
  cases candidates.find? (·.opens t) with
  | none => exact .error (.same _)
  | some c =>
      exact .ok ⟨Open.sameTexts_start c hline hline' hne, ⟨_, [], t, rfl, hline, hne⟩,
        ⟨_, [], t, rfl, hline', hne⟩⟩

theorem agree_resume (h : o.SameTexts o')
    (hfilled : EndsFilled (SourceUnit.numberFrom o.first o.lines))
    (hfilled' : EndsFilled (SourceUnit.numberFrom o'.first o'.lines))
    (hlast : Agree (List.Forall₂ SameTexts) (listFrom candidates none lines)
      (listFrom candidates none lines'))
    (hmore : o.isComplete = .ok false → Agree (List.Forall₂ SameTexts)
      (listFrom candidates (some o) lines) (listFrom candidates (some o') lines')) :
    Agree (List.Forall₂ SameTexts) (resume candidates o lines) (resume candidates o' lines') := by
  have hsame := h.isComplete_eq
  cases hcomplete : o.isComplete with
  | error cause =>
      rw [hcomplete] at hsame
      rw [resume, resume, hcomplete, hsame]
      exact .error (.same cause)
  | ok b =>
      rw [hcomplete] at hsame
      cases b with
      | false =>
          rw [resume_of_more hcomplete, resume_of_more hsame]
          exact hmore hcomplete
      | true =>
          rw [resume_of_last hcomplete, resume_of_last hsame]
          exact (h.close hfilled hfilled').bind fun hi => hlast.bind fun his => .ok (.cons hi his)

/-- Lines in two layouts are read alike, between items and in an open item. -/
theorem agree_listFrom (h : Relaid lines lines') :
    Agree (List.Forall₂ SameTexts) (listFrom candidates none lines)
      (listFrom candidates none lines') ∧
    ∀ {o o'}, o.SameTexts o' → o.isComplete = .ok false → Agree (List.Forall₂ SameTexts)
      (listFrom candidates (some o) lines) (listFrom candidates (some o') lines') := by
  induction h with
  | nil =>
      refine ⟨.ok .nil, fun {o o'} ho _ => ?_⟩
      -- The two items may have begun at different lines.
      rw [listFrom, listFrom, ho.construct]
      exact .error (.unclosed _ _ _)
  | @blankLeft number line lines lines' hline _ ih =>
      refine ⟨?_, fun {o o'} ho hopen => ?_⟩
      · rw [listFrom_blank hline]
        exact ih.1
      · -- An item that goes on before a blank line goes on after it.
        obtain ⟨hfed, hsame⟩ := ho.feed_blank hline
        rw [listFrom_next o hline, resume_of_more (hsame.trans hopen)]
        exact ih.2 hfed (hsame.trans hopen)
  | @blankRight number line lines lines' hline _ ih =>
      refine ⟨?_, fun {o o'} ho hopen => ?_⟩
      · rw [listFrom_blank hline]
        exact ih.1
      · obtain ⟨hfed, hsame⟩ := ho.symm.feed_blank hline
        have hopen' := hsame.trans (ho.isComplete_eq.trans hopen)
        rw [listFrom_next o' hline, resume_of_more hopen']
        exact ih.2 hfed.symm hopen
  | @line number number' line line' t lines lines' hline hline' hne _ ih =>
      refine ⟨?_, fun {o o'} ho _ => ?_⟩
      · rw [listFrom_first hline hne, listFrom_first hline' hne]
        refine (agree_begin? hline hline' hne).bind fun {o o'} ho => ?_
        obtain ⟨ho, hfilled, hfilled'⟩ := ho
        exact agree_resume ho hfilled hfilled' ih.1 (ih.2 ho)
      · rw [listFrom_next o hline, listFrom_next o' hline']
        have hfed := ho.feed hline hline' hne
        exact agree_resume hfed (Open.endsFilled_feed o hline hne)
          (Open.endsFilled_feed o' hline' hne) ih.1 (ih.2 hfed)

end

/-- Whether two items of one construct were read from the same texts. -/
structure ReadAlike (candidates : List Construct) (i i' : Item) : Prop where
  construct : i'.construct = i.construct
  passages : ∃ cs cs', IsRead candidates i cs ∧ IsRead candidates i' cs' ∧ texts cs' = texts cs

/-- Two units that hold the same texts are read alike. -/
theorem agree_list {candidates : List Construct} {u u' : SourceUnit} {cs cs' : List (Nat × Text)}
    (h : Content u.numberedLines cs) (h' : Content u'.numberedLines cs')
    (htexts : texts cs' = texts cs) :
    Agree (List.Forall₂ (ReadAlike candidates)) (list u candidates) (list u' candidates) := by
  refine (agree_listFrom (.of_content h h' htexts)).1.mono fun {items items'} hitems _ hall => ?_
  obtain ⟨css, -, hread⟩ := readsAs_of_list hitems
  refine forall₂_of_mem_left hall fun i hi i' hsame => ⟨hsame.construct, ?_⟩
  obtain ⟨ds, -, hds⟩ := forall₂_exists_of_mem_left hread hi
  obtain ⟨es, es', hes, hes', hsameTexts⟩ := hsame.contents
  obtain rfl := hes.unique hds.holds
  refine ⟨es, es', hds, ⟨?_, hes'⟩, hsameTexts⟩
  rw [hsameTexts, hsame.construct]
  exact hds.passage

namespace ReadAlike

variable {candidates : List Construct} {i i' : Item}

theorem text (h : ReadAlike candidates i i') : i'.unit.text = i.unit.text := by
  obtain ⟨cs, cs', hread, hread', htexts⟩ := h.passages
  rw [hread.holds.text, hread'.holds.text, htexts]

/-- The headers of two blocks that were read alike are the same, and their
bodies hold the same texts. -/
theorem block (h : ReadAlike candidates i i') (hblock : i.construct.isBlock = true) :
    ∃ header header' body body', i.header = .ok header ∧ i'.header = .ok header' ∧
      header'.text = header.text ∧ i.body = .ok body ∧ i'.body = .ok body' ∧
      ∃ cs cs', Content body.numberedLines cs ∧ Content body'.numberedLines cs' ∧
        texts cs' = texts cs := by
  obtain ⟨cs, cs', hread, hread', htexts⟩ := h.passages
  obtain ⟨first, inner, last, header, body, rfl, hlines⟩ :=
    hread.holds.exists_blockLines hblock hread.passage.fills
  obtain ⟨first', inner', last', header', body', rfl, hlines'⟩ :=
    hread'.holds.exists_blockLines (h.construct ▸ hblock) hread'.passage.fills
  simp only [List.cons_append, texts_cons, texts_append, texts_nil, List.cons.injEq] at htexts
  obtain ⟨hfirst, hrest⟩ := htexts
  refine ⟨header, header', body, body', hlines.readHeader, hlines'.readHeader, ?_,
    hlines.readBody, hlines'.readBody, inner, inner', hlines.content, hlines'.content,
    (List.append_inj' hrest rfl).1⟩
  rw [hlines.headerText, hlines'.headerText, hfirst]

/-- The parts of two blocks that were read alike are read alike. -/
theorem parts (h : ReadAlike candidates i i') (hblock : i.construct.isBlock = true) :
    Agree (List.Forall₂ (ReadAlike i.construct.parts)) i.parts i'.parts := by
  obtain ⟨_, _, body, body', -, -, -, hbody, hbody', cs, cs', hcs, hcs', htexts⟩ := h.block hblock
  rw [Item.parts, Item.parts, hbody, hbody', h.construct]
  exact agree_list hcs hcs' htexts

end ReadAlike

end Item

end Overlay
