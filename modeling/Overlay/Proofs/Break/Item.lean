import Overlay.Proofs.Break.Passage

/-!
Items in which a line is cut. A unit in which the line fits is read as the same
items: those that have the line hold its halves, and the others are moved.
-/

namespace Overlay

open Text

namespace LineBreak

/-- Whether the halves of the line open and close as many blocks as the line. -/
def KeepsBlocks (k : LineBreak) : Prop :=
  Construct.rise k.front + Construct.rise k.back = Construct.rise k.whole

instance (k : LineBreak) : Decidable k.KeepsBlocks :=
  inferInstanceAs (Decidable (Construct.rise k.front + Construct.rise k.back = _))

/-- Whether the halves of the line can stand for it. -/
structure Sound (k : LineBreak) : Prop where
  halves : Halves k.whole k.front k.back
  blocks : k.KeepsBlocks

/-- Whether a construct may be cut in a line with such content before and after
it: a block between its header and its `end`, anything else inside a bracket. -/
structure FitsAt (k : LineBreak) (c : Construct) (xs ys : List (Nat × Text)) : Prop where
  around : k.Around xs ys
  filled : k.whole ≠ []
  inner : c.isBlock = true → xs ≠ [] ∧ ys ≠ []
  bracket : c.isBlock = false → k.front ≠ [] →
    ∃ depth, bracketDepth ([' '].intercalate (texts xs ++ [k.front])) = .ok (depth + 1)

/-- Whether a construct with some content may be cut in the line, or does not
have it. -/
def Fits (k : LineBreak) (c : Construct) (cs : List (Nat × Text)) : Prop :=
  k.number ∈ cs.map Prod.fst → ∃ xs ys, cs = xs ++ (k.number, k.whole) :: ys ∧ k.FitsAt c xs ys

variable {k : LineBreak} {candidates : List Construct}

/-- Either the texts stay, or the two halves take the place of the line. -/
theorem Fits.texts_cases {c : Construct} {cs : List (Nat × Text)} (h : k.Fits c cs)
    (hk : k.Sound) : texts (k.apply cs) = texts cs ∨ ∃ xs ys gap,
      k.FitsAt c xs ys ∧ k.front ≠ [] ∧ IsGap gap ∧ k.whole = k.front ++ (gap ++ k.back) ∧
      texts cs = texts xs ++ k.whole :: texts ys ∧
      texts (k.apply cs) = texts xs ++ k.front :: k.back :: texts ys := by
  by_cases hmem : k.number ∈ cs.map Prod.fst
  · obtain ⟨xs, ys, rfl, hat⟩ := h hmem
    have htexts := hat.around.texts_apply k.whole
    rw [LineBreak.halves] at htexts
    rcases hk.halves.texts_filled hat.filled k.number (k.number + 1) with
      hsame | ⟨hfront, hboth, gap, hgap, hwhole⟩
    · rw [hsame] at htexts
      exact .inl (by simpa using htexts)
    · rw [hboth] at htexts
      exact .inr ⟨xs, ys, gap, hat, hfront, hgap, hwhole, by simp, by simpa using htexts⟩
  · exact .inl (texts_apply hmem)

theorem isPassage_apply {c : Construct} {cs : List (Nat × Text)} (hk : k.Sound)
    (hfits : k.Fits c cs) (hlast : Construct.BlocksLast candidates)
    (h : IsPassage candidates c (texts cs)) : IsPassage candidates c (texts (k.apply cs)) := by
  rcases hfits.texts_cases hk with hsame | ⟨xs, ys, gap, hat, hfront, hgap, hwhole, hcs, happly⟩
  · rwa [hsame]
  · rw [hcs, hwhole] at h
    rw [happly]
    cases hblock : c.isBlock with
    | true =>
        have hrises := hk.blocks
        rw [KeepsBlocks, hwhole] at hrises
        exact h.cut_block hgap hblock (by simpa using (hat.inner hblock).1) hrises
    | false =>
        obtain ⟨depth, hdepth⟩ := hat.bracket hblock hfront
        exact h.cut_leaf hgap hdepth hblock hlast

theorem respaced_apply {c : Construct} {cs : List (Nat × Text)} (hk : k.Sound)
    (hfits : k.Fits c cs) (hleaf : c.isBlock = false) (h : IsPassage candidates c (texts cs)) :
    Respaced ([' '].intercalate (texts cs)) ([' '].intercalate (texts (k.apply cs))) := by
  rcases hfits.texts_cases hk with hsame | ⟨xs, ys, gap, hat, hfront, hgap, hwhole, hcs, happly⟩
  · rw [hsame]
    exact h.respaced_refl hleaf
  · obtain ⟨depth, hdepth⟩ := hat.bracket hleaf hfront
    rw [hcs, hwhole] at h ⊢
    rw [happly]
    exact h.respaced_cut hgap hdepth hleaf

end LineBreak

namespace Item

variable {k : LineBreak} {candidates : List Construct}

/-- Whether an item, and each item in it, may be cut in the line. -/
def Fits (k : LineBreak) (i : Item) : Prop :=
  ∀ j, i.Contains j → ∀ cs, j.Holds cs → k.Fits j.construct cs

theorem Fits.part {i j : Item} {js : List Item} (h : i.Fits k) (hblock : i.construct.isBlock = true)
    (hjs : i.parts = .ok js) (hj : j ∈ js) : j.Fits k :=
  fun l hl => h l (.part hblock hjs hj hl)

/-- Whether the second of two items is the first with the line cut. -/
structure Recut (k : LineBreak) (candidates : List Construct) (i i' : Item)
    (cs : List (Nat × Text)) : Prop where
  construct : i'.construct = i.construct
  fits : i.Fits k
  before : IsRead candidates i cs
  after : IsRead candidates i' (k.apply cs)

def RecutOf (k : LineBreak) (candidates : List Construct) (i i' : Item) : Prop :=
  ∃ cs, Recut k candidates i i' cs

/-- Whether the lines of the second of two units are those of the first with the
line cut. -/
def CutTo (k : LineBreak) (u u' : SourceUnit) : Prop :=
  ∀ cs, Content u.numberedLines cs → Content u'.numberedLines (k.apply cs)

theorem list_of_cutTo {u u' : SourceUnit} {items : List Item} (hk : k.Sound) (hu : CutTo k u u')
    (hlast : Construct.BlocksLast candidates) (hfits : ∀ i ∈ items, i.Fits k)
    (h : list u candidates = .ok items) :
    ∃ items', list u' candidates = .ok items' ∧
      List.Forall₂ (RecutOf k candidates) items items' := by
  obtain ⟨css, hcontent, hall⟩ := readsAs_of_list h
  have hcontent' := hu _ hcontent
  rw [LineBreak.apply_flatten] at hcontent'
  have hpassages : List.Forall₂ (fun c cs => IsPassage candidates c (texts cs))
      (items.map Item.construct) (css.map k.apply) := by
    rw [List.forall₂_map_left_iff, List.forall₂_map_right_iff]
    refine forall₂_of_mem_left hall fun i hi cs hread => ?_
    exact LineBreak.isPassage_apply hk (hfits i hi i (.self i) cs hread.holds) hlast hread.passage
  obtain ⟨items', hitems', hconstructs, hall'⟩ := list_of_passages hcontent' hpassages
  refine ⟨items', hitems', ?_⟩
  clear hcontent hcontent' hpassages hitems' h
  induction hall generalizing items' with
  | nil =>
      cases hall'
      exact .nil
  | cons hfirst _ ih =>
      cases hall' with
      | cons hfirst' hall' =>
          obtain ⟨hc, hconstructs⟩ := List.cons.inj hconstructs
          obtain ⟨hfit, hfits⟩ := List.forall_mem_cons.1 hfits
          exact .cons ⟨_, hc, hfit, hfirst, hfirst'⟩ (ih hfits _ hconstructs hall')

theorem Recut.respaced {i i' : Item} {cs : List (Nat × Text)} (h : Recut k candidates i i' cs)
    (hk : k.Sound) (hleaf : i.construct.isBlock = false) :
    Respaced i.unit.text i'.unit.text := by
  rw [h.before.holds.text, h.after.holds.text]
  exact LineBreak.respaced_apply hk (h.fits i (.self i) cs h.before.holds) hleaf h.before.passage

/-- The header of a block stays, and its body is cut. -/
theorem Recut.block {i i' : Item} {cs : List (Nat × Text)} (h : Recut k candidates i i' cs)
    (hblock : i.construct.isBlock = true) :
    ∃ header header' body body', i.header = .ok header ∧ i'.header = .ok header' ∧
      header'.text = header.text ∧ i.body = .ok body ∧ i'.body = .ok body' ∧
      CutTo k body body' := by
  obtain ⟨first, inner, last, header, body, hcs, hlines⟩ :=
    h.before.holds.exists_blockLines hblock h.before.passage.fills
  have hblock' := hblock
  rw [← h.construct] at hblock'
  obtain ⟨first', inner', last', header', body', hcs', hlines'⟩ :=
    h.after.holds.exists_blockLines hblock' h.after.passage.fills
  -- The cut lies strictly inside of the block, so the header and the `end` stay as they are.
  have houter : first.1 ≠ k.number ∧ last.1 ≠ k.number := by
    by_cases hmem : k.number ∈ cs.map Prod.fst
    · obtain ⟨xs, ys, hxys, hat⟩ := h.fits i (.self i) cs h.before.holds hmem
      obtain ⟨hxs, hys⟩ := hat.inner hblock
      obtain ⟨x, xs, rfl⟩ := List.exists_cons_of_ne_nil hxs
      rcases List.eq_nil_or_concat ys with rfl | ⟨ys, y, rfl⟩
      · exact absurd rfl hys
      · rw [hcs, List.concat_eq_append, ← List.cons_append, ← List.append_assoc] at hxys
        obtain ⟨hfront, hlast⟩ := List.append_inj' hxys rfl
        obtain rfl := (List.cons.inj hfront).1
        obtain rfl := (List.cons.inj hlast).1
        have hlt := hat.around.before first List.mem_cons_self
        have hgt := hat.around.after last (by simp)
        omega
    · rw [hcs] at hmem
      simp only [List.map_append, List.map_cons, List.mem_append, List.mem_cons, not_or] at hmem
      exact ⟨Ne.symm hmem.1.1, Ne.symm hmem.2.1⟩
  obtain ⟨n, hn⟩ := LineBreak.line_eq_singleton houter.1
  obtain ⟨m, hm⟩ := LineBreak.line_eq_singleton houter.2
  rw [hcs, LineBreak.apply_append, LineBreak.apply_cons, LineBreak.apply_cons, hn, hm,
    LineBreak.apply_nil, List.append_nil, List.singleton_append] at hcs'
  obtain ⟨hfront, -⟩ := List.append_inj' hcs' rfl
  obtain ⟨rfl, rfl⟩ := List.cons.inj hfront
  refine ⟨header, header', body, body', hlines.readHeader, hlines'.readHeader, ?_,
    hlines.readBody, hlines'.readBody, fun ds hds => ?_⟩
  · rw [hlines.headerText, hlines'.headerText]
  · rw [hds.unique hlines.content]
    exact hlines'.content

/-- The parts of a block are cut with it. -/
theorem Recut.parts {i i' : Item} {cs : List (Nat × Text)} (h : Recut k candidates i i' cs)
    (hk : k.Sound) (hblock : i.construct.isBlock = true) {js : List Item}
    (hjs : i.parts = .ok js) : ∃ js', i'.parts = .ok js' ∧
      List.Forall₂ (RecutOf k i.construct.parts) js js' := by
  obtain ⟨header, header', body, body', -, -, -, hbody, hbody', hcut⟩ := h.block hblock
  have hlist := hjs
  rw [Item.parts, hbody, Except.ok_bind] at hlist
  rw [Item.parts, hbody', Except.ok_bind, h.construct]
  exact list_of_cutTo hk hcut (Construct.blocksLast_parts _)
    (fun j hj => h.fits.part hblock hjs hj) hlist

/-- The items in the body of a block, whose kind is known. -/
theorem Recut.list_body {i i' : Item} {cs : List (Nat × Text)} (h : Recut k candidates i i' cs)
    (hk : k.Sound) {c : Construct} (hc : i.construct = c) (hblock : c.isBlock = true)
    {body : SourceUnit} {items : List Item} (hbody : i.body = .ok body)
    (hitems : list body c.parts = .ok items) : ∃ body' items', i'.body = .ok body' ∧
      list body' c.parts = .ok items' ∧ List.Forall₂ (RecutOf k c.parts) items items' := by
  subst hc
  have hparts : i.parts = .ok items := by
    rw [Item.parts, hbody, Except.ok_bind, hitems]
  obtain ⟨items', hparts', hall⟩ := h.parts hk hblock hparts
  rw [Item.parts, Except.bind_eq_ok_iff, h.construct] at hparts'
  obtain ⟨body', hbody', hitems'⟩ := hparts'
  exact ⟨body', items', hbody', hitems', hall⟩

end Item

end Overlay
