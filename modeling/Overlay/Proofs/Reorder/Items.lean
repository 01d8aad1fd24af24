import Overlay.Proofs.Break.Blocks
import Overlay.Proofs.Layout.Items
import Overlay.Proofs.Reorder.Rules

/-!
Blocks with their parts in another order. The parts of a block that was read close
what they open, each for itself, and so they may be exchanged: the block is read to
its end as before, and its parts are read again, in the new order.
-/

namespace Overlay

open Text

namespace Construct

/-- Whether lines of a body, before which some blocks in it are open, close these
and all that they open, but not the block itself. -/
def Closes (depth : Int) : List Text → Prop
  | [] => depth = 0
  | t :: ts => 0 ≤ depth + rise t ∧ Closes (depth + rise t) ts

theorem Closes.append {m n : Int} {ts us : List Text} (h : Closes m ts) (hn : 0 ≤ n)
    (h' : Closes n us) : Closes (m + n) (ts ++ us) := by
  induction ts generalizing m with
  | nil =>
      obtain rfl : m = 0 := h
      rwa [Int.zero_add]
  | cons t ts ih =>
      obtain ⟨hstep, hrest⟩ := h
      have ih := ih hrest
      rw [Int.add_right_comm] at ih
      exact ⟨by omega, ih⟩

theorem closes_append {ts us : List Text} (h : Closes 0 ts) (h' : Closes 0 us) :
    Closes 0 (ts ++ us) := h.append (Int.le_refl 0) h'

theorem closes_singleton {t : Text} (h : rise t = 0) : Closes 0 [t] := by simp [Closes, h]

theorem rise_end : rise ['e', 'n', 'd'] = -1 := by decide

/-- A block in a body closes itself. -/
theorem closes_block {t : Text} {ts : List Text} (ht : rise t = 1) (h : Closes 0 ts) :
    Closes 0 (t :: ts ++ [['e', 'n', 'd']]) := by
  have hend : Closes 1 [['e', 'n', 'd']] := by simp [Closes, rise_end]
  have hrest := h.append (Int.zero_le_ofNat 1) hend
  refine ⟨by omega, ?_⟩
  rwa [ht]

/-- The block around such lines ends with the `end` after them. -/
theorem Closes.fills {c : Construct} (hblock : c.isBlock = true) {n : Nat} {done ts : List Text}
    (h : Closes n ts) (hne : done ≠ []) (hdepth : blockDepth done = n + 1) :
    c.Fills done (ts ++ [['e', 'n', 'd']]) := by
  induction ts generalizing n done with
  | nil =>
      obtain rfl : n = 0 := by
        have hzero : (n : Int) = 0 := h
        omega
      refine .last ?_
      rw [ends_block hblock, blockDepth_concat hne, hdepth]
      rfl
  | cons t ts ih =>
      obtain ⟨hstep, hrest⟩ := h
      have hafter : (depthAfter (blockDepth done) t : Int) = blockDepth done + rise t :=
        depthAfter_eq (by omega) t
      obtain ⟨m, hm⟩ := Int.eq_ofNat_of_zero_le hstep
      have hdepth' : blockDepth (done ++ [t]) = m + 1 := by
        rw [blockDepth_concat hne]
        omega
      refine .more ?_ (ih (hm ▸ hrest) (by simp) hdepth')
      rw [ends_block hblock, hdepth']
      rfl

theorem neg_one_le_rise (t : Text) : -1 ≤ rise t := by
  unfold rise
  split
  · decide
  · split
    · decide
    · decide

theorem opens_end (c : Construct) : c.opens ['e', 'n', 'd'] = false := by cases c <;> decide

end Construct

namespace Item

/-! Items on one line. -/

variable {candidates : List Construct}

theorem Holds.texts_of_oneLine {i : Item} {cs : List (Nat × Text)} (h : i.Holds cs)
    (hline : i.unit.lines.length = 1) : texts cs = [i.unit.text] := by
  obtain ⟨line, hlines⟩ := List.length_eq_one_iff.1 hline
  have hnumbered : i.unit.numberedLines = [(i.unit.first, line)] := by
    rw [SourceUnit.numberedLines, hlines]
    rfl
  obtain ⟨l, rest, t, hl, ht, hne⟩ := h.starts
  have hcontent := h.content
  rw [hnumbered] at hl hcontent
  obtain ⟨rfl, -⟩ := List.cons.inj hl
  have htext := h.text
  rw [eq_singleton_of_content ht hne hcontent] at htext ⊢
  rw [htext, texts_cons, texts_nil, List.intercalate_singleton]

/-- A declaration or a rule on one line closes no block. -/
theorem IsRead.rises_nonneg_of_oneLine {i : Item} {cs : List (Nat × Text)}
    (h : IsRead candidates i cs) (hline : i.unit.lines.length = 1) :
    0 ≤ Construct.rises (texts cs) := by
  have htexts := h.holds.texts_of_oneLine hline
  have hopens := List.find?_some h.passage.begins
  rw [htexts] at hopens ⊢
  rw [Construct.rises_cons, Construct.rises_nil, Int.add_zero, Construct.rise_nonneg_iff]
  intro hend
  rw [List.headD_cons, hend, Construct.opens_end] at hopens
  cases hopens

theorem IsRead.rises_of_block {i : Item} {cs : List (Nat × Text)} (h : IsRead candidates i cs)
    (hblock : i.construct.isBlock = true) :
    Construct.rises (texts cs) = 0 ∧ ∃ c rest, cs = c :: rest ∧ Construct.rise c.2 = 1 := by
  have hne : cs ≠ [] := fun hnil => h.passage.fills.ne_nil (texts_eq_nil_iff.2 hnil)
  obtain ⟨c, rest, rfl⟩ := List.exists_cons_of_ne_nil hne
  have hopens := List.find?_some h.passage.begins
  have hheader := Construct.isHeader_of_opens hblock hopens
  exact ⟨Construct.rises_of_fills hblock hheader h.passage.fills, c, rest, rfl,
    Construct.rise_eq_one_iff.2 hheader⟩

/-- Whether an item was read from lines that close as many blocks as they open. -/
def IsClosed (candidates : List Construct) (i : Item) : Prop :=
  ∃ cs, IsRead candidates i cs ∧ Construct.rises (texts cs) = 0

theorem rises_flatten_nonneg {css : List (List (Nat × Text))}
    (h : ∀ cs ∈ css, 0 ≤ Construct.rises (texts cs)) :
    0 ≤ Construct.rises (texts css.flatten) := by
  induction css with
  | nil => exact Int.le_refl 0
  | cons cs css ih =>
      obtain ⟨hcs, hcss⟩ := List.forall_mem_cons.1 h
      have ih := ih hcss
      rw [List.flatten_cons, texts_append, Construct.rises_append]
      omega

theorem rises_eq_zero_of_flatten {css : List (List (Nat × Text))}
    (h : ∀ cs ∈ css, 0 ≤ Construct.rises (texts cs))
    (hsum : Construct.rises (texts css.flatten) ≤ 0) :
    ∀ cs ∈ css, Construct.rises (texts cs) = 0 := by
  induction css with
  | nil => nofun
  | cons cs css ih =>
      obtain ⟨hcs, hcss⟩ := List.forall_mem_cons.1 h
      have hrest := rises_flatten_nonneg hcss
      rw [List.flatten_cons, texts_append, Construct.rises_append] at hsum
      exact List.forall_mem_cons.2 ⟨by omega, ih hcss (by omega)⟩

/-- Since the block closes all that it opens, none of its parts may open more than
it closes. -/
theorem IsRead.isClosed_of_part {i : Item} {cs : List (Nat × Text)}
    (h : IsRead candidates i cs) (hblock : i.construct.isBlock = true) {js : List Item}
    (hjs : i.parts = .ok js)
    (hline : ∀ j ∈ js, j.construct.isBlock = false → j.unit.lines.length = 1) :
    ∀ j ∈ js, j.IsClosed i.construct.parts := by
  obtain ⟨hzero, c, rest, hcs, hfirst⟩ := h.rises_of_block hblock
  obtain ⟨first, css, last, rfl, hall⟩ := h.parts hblock hjs
  obtain ⟨rfl, -⟩ := List.cons.inj hcs
  have hnonneg : ∀ ds ∈ css, 0 ≤ Construct.rises (texts ds) := by
    intro ds hds
    obtain ⟨j, hj, hread⟩ := forall₂_exists_of_mem_right hall hds
    cases hpart : j.construct.isBlock with
    | true => exact Int.le_of_eq (hread.rises_of_block hpart).1.symm
    | false => exact hread.rises_nonneg_of_oneLine (hline j hj hpart)
  -- The header opens the block, and the last line closes no more than that.
  have hlast := Construct.neg_one_le_rise last.2
  simp only [List.cons_append, texts_cons, texts_append, texts_nil, Construct.rises_cons,
    Construct.rises_append, Construct.rises_nil, hfirst] at hzero
  have hclosed := rises_eq_zero_of_flatten hnonneg (by omega)
  intro j hj
  obtain ⟨ds, hds, hread⟩ := forall₂_exists_of_mem_left hall hj
  exact ⟨ds, hread, hclosed ds hds⟩

/-! Items with their parts in another order. -/

mutual

/-- The texts that hold an item once the parts of its blocks were put in another
order. The declarations and rules of the item stand on one line each. -/
inductive Rearranged : Item → List Text → Prop
  | leaf {i : Item} : i.construct.isBlock = false → i.unit.lines.length = 1 →
      Rearranged i [i.unit.text]
  | block {i : Item} {header : SourceUnit} {js js' : List Item} {ts : List Text} :
      i.construct.isBlock = true → i.header = .ok header → i.parts = .ok js →
      SameOrder series? js js' → AllRearranged js' ts →
      Rearranged i (header.text :: ts ++ [['e', 'n', 'd']])

/-- The texts that hold a list of such items, one after the other. -/
inductive AllRearranged : List Item → List Text → Prop
  | nil : AllRearranged [] []
  | cons {i : Item} {is : List Item} {ts us : List Text} : Rearranged i ts →
      AllRearranged is us → AllRearranged (i :: is) (ts ++ us)

end

theorem Rearranged.oneLine {i : Item} {ts : List Text} (h : Rearranged i ts)
    (hleaf : i.construct.isBlock = false) : i.unit.lines.length = 1 := by
  cases h with
  | leaf _ hline => exact hline
  | block hblock =>
      rw [hleaf] at hblock
      cases hblock

theorem AllRearranged.exists_of_mem {is : List Item} {ts : List Text} (h : AllRearranged is ts) :
    ∀ i ∈ is, ∃ us, Rearranged i us := by
  match h with
  | .nil => nofun
  | .cons hi his => exact List.forall_mem_cons.2 ⟨⟨_, hi⟩, his.exists_of_mem⟩

theorem IsRead.isClosed_of_rearranged {candidates : List Construct} {i : Item}
    {cs : List (Nat × Text)} (h : IsRead candidates i cs) (hblock : i.construct.isBlock = true)
    {js js' : List Item} {ts : List Text} (hjs : i.parts = .ok js)
    (horder : SameOrder series? js js') (hall : AllRearranged js' ts) :
    ∀ j ∈ js', j.IsClosed i.construct.parts := by
  have hparts := h.isClosed_of_part hblock hjs fun j hj hleaf => by
    obtain ⟨us, hj⟩ := hall.exists_of_mem j (horder.perm.mem_iff.1 hj)
    exact hj.oneLine hleaf
  exact fun j hj => hparts j (horder.perm.mem_iff.2 hj)

/-- Whether texts hold an item that was read, rearranged, as one passage. -/
structure Refills (candidates : List Construct) (i : Item) (ts : List Text) : Prop where
  rearranged : Rearranged i ts
  passage : IsPassage candidates i.construct ts
  closes : Construct.Closes 0 ts

/-- Between its header and an `end`, lines that close what they open fill a block. -/
theorem IsRead.refills_block {candidates : List Construct} {i : Item} {cs : List (Nat × Text)}
    (h : IsRead candidates i cs) (hblock : i.construct.isBlock = true) {header : SourceUnit}
    (hheader : i.header = .ok header) {ts : List Text} (hcloses : Construct.Closes 0 ts)
    (hre : Rearranged i (header.text :: ts ++ [['e', 'n', 'd']])) :
    Refills candidates i (header.text :: ts ++ [['e', 'n', 'd']]) := by
  obtain ⟨-, c, rest, hcs, hrise⟩ := h.rises_of_block hblock
  obtain ⟨first, inner, last, header', body, rfl, hlines⟩ :=
    h.holds.exists_blockLines hblock h.passage.fills
  obtain ⟨rfl, -⟩ := List.cons.inj hcs
  rw [hlines.readHeader] at hheader
  cases hheader
  rw [← hlines.headerText] at hrise
  refine ⟨hre, ⟨?_, ?_⟩, Construct.closes_block hrise hcloses⟩
  · have hbegins := h.passage.begins
    rwa [List.cons_append, texts_cons, List.headD_cons, ← hlines.headerText] at hbegins
  · refine .more ?_ (Construct.Closes.fills (n := 0) hblock hcloses (List.cons_ne_nil _ _) rfl)
    rw [Construct.ends_block hblock]
    rfl

mutual

theorem refills_of_rearranged {candidates : List Construct} {i : Item} {ts : List Text}
    (hclosed : i.IsClosed candidates) : Rearranged i ts → Refills candidates i ts
  | .leaf hleaf hline => by
      obtain ⟨cs, hread, hzero⟩ := hclosed
      have htexts := hread.holds.texts_of_oneLine hline
      rw [htexts] at hzero
      refine ⟨.leaf hleaf hline, htexts ▸ hread.passage, Construct.closes_singleton ?_⟩
      simpa using hzero
  | .block hblock hheader hjs horder hall => by
      obtain ⟨cs, hread, -⟩ := hclosed
      have hparts := hread.isClosed_of_rearranged hblock hjs horder hall
      obtain ⟨_, -, -, hcloses⟩ := refills_of_allRearranged hparts hall
      exact hread.refills_block hblock hheader hcloses (.block hblock hheader hjs horder hall)

theorem refills_of_allRearranged {candidates : List Construct} {js : List Item} {us : List Text}
    (hclosed : ∀ j ∈ js, j.IsClosed candidates) : AllRearranged js us →
    ∃ tss, us = tss.flatten ∧ List.Forall₂ (Refills candidates) js tss ∧ Construct.Closes 0 us
  | .nil => ⟨[], rfl, .nil, rfl⟩
  | .cons hi his => by
      obtain ⟨hfirst, hrest⟩ := List.forall_mem_cons.1 hclosed
      have hrefills := refills_of_rearranged hfirst hi
      obtain ⟨tss, rfl, hall, hcloses⟩ := refills_of_allRearranged hrest his
      exact ⟨_ :: tss, rfl, .cons hrefills hall, Construct.closes_append hrefills.closes hcloses⟩

end

/-- Content can be cut where its texts are. -/
theorem exists_texts_eq {cs : List (Nat × Text)} {tss : List (List Text)}
    (h : texts cs = tss.flatten) :
    ∃ css : List (List (Nat × Text)), cs = css.flatten ∧ css.map texts = tss := by
  induction tss generalizing cs with
  | nil => exact ⟨[], texts_eq_nil_iff.1 h, rfl⟩
  | cons ts tss ih =>
      obtain ⟨front, back, rfl, hfront, hback⟩ := List.map_eq_append_iff.1 h
      obtain ⟨css, rfl, rfl⟩ := ih hback
      exact ⟨front :: css, rfl, by rw [List.map_cons, ← hfront]; rfl⟩

/-- Whether the second of two items was read from texts that hold the first,
rearranged. -/
structure Reordered (candidates : List Construct) (i i' : Item) : Prop where
  construct : i'.construct = i.construct
  closed : i.IsClosed candidates
  read : ∃ cs, Rearranged i (texts cs) ∧ IsRead candidates i' cs

/-- A unit that holds items, rearranged, is read as such items. -/
theorem list_of_allRearranged {candidates : List Construct} {js : List Item} {us : List Text}
    (hclosed : ∀ j ∈ js, j.IsClosed candidates) (h : AllRearranged js us) {u : SourceUnit}
    {cs : List (Nat × Text)} (hcontent : Content u.numberedLines cs) (htexts : texts cs = us) :
    ∃ ks, list u candidates = .ok ks ∧ List.Forall₂ (Reordered candidates) js ks := by
  obtain ⟨tss, rfl, hall, -⟩ := refills_of_allRearranged hclosed h
  obtain ⟨css, rfl, rfl⟩ := exists_texts_eq htexts
  rw [List.forall₂_map_right_iff] at hall
  have hpassages : List.Forall₂ (fun c cs => IsPassage candidates c (texts cs))
      (js.map construct) css := by
    rw [List.forall₂_map_left_iff]
    exact hall.imp fun _ _ hrefills => hrefills.passage
  obtain ⟨ks, hks, hconstructs, hread⟩ := list_of_passages hcontent hpassages
  refine ⟨ks, hks, ?_⟩
  -- Item by item: each was read from the texts that hold the one it stands for.
  clear hcontent htexts hpassages hks h
  induction hall generalizing ks with
  | nil =>
      cases hread
      exact .nil
  | cons hfirst _ ih =>
      cases hread with
      | cons hfirst' hread =>
          obtain ⟨hc, hconstructs⟩ := List.cons.inj hconstructs
          obtain ⟨hj, hjs⟩ := List.forall_mem_cons.1 hclosed
          exact .cons ⟨hc, hj, _, hfirst.rearranged, hfirst'⟩ (ih hjs _ hconstructs hread)

namespace Reordered

variable {candidates : List Construct} {i i' : Item}

/-- A declaration or a rule is read as it was. -/
theorem readAlike (h : Reordered candidates i i') (hleaf : i.construct.isBlock = false) :
    ReadAlike candidates i i' := by
  obtain ⟨ds, hre, hread⟩ := h.read
  obtain ⟨cs, hread', -⟩ := h.closed
  refine ⟨h.construct, cs, ds, hread', hread, ?_⟩
  rw [hread'.holds.texts_of_oneLine (hre.oneLine hleaf)]
  generalize texts ds = ts at hre
  cases hre with
  | leaf => rfl
  | block hblock =>
      rw [hleaf] at hblock
      cases hblock

/-- The header of a block stays, and its parts are in another order. -/
theorem block (h : Reordered candidates i i') (hblock : i.construct.isBlock = true) :
    ∃ header header' js js' ks, i.header = .ok header ∧ i'.header = .ok header' ∧
      header'.text = header.text ∧ i.parts = .ok js ∧ SameOrder series? js js' ∧
      i'.parts = .ok ks ∧ List.Forall₂ (Reordered i.construct.parts) js' ks := by
  obtain ⟨cs, hread, -⟩ := h.closed
  obtain ⟨ds, hre, hread'⟩ := h.read
  obtain ⟨first, inner, last, header', body', rfl, hlines⟩ :=
    hread'.holds.exists_blockLines (h.construct ▸ hblock) hread'.passage.fills
  generalize htexts : texts (first :: inner ++ [last]) = ts at hre
  cases hre with
  | leaf hleaf =>
      rw [hleaf] at hblock
      cases hblock
  | @block _ header js js' us _ hheader hjs horder hall =>
      rw [List.cons_append, List.cons_append, texts_cons, texts_append] at htexts
      obtain ⟨hfirst, hrest⟩ := List.cons.inj htexts
      obtain ⟨hinner, -⟩ := List.append_inj' hrest rfl
      have hparts := hread.isClosed_of_rearranged hblock hjs horder hall
      obtain ⟨ks, hks, hreordered⟩ :=
        list_of_allRearranged hparts hall hlines.content hinner
      refine ⟨header, header', js, js', ks, hheader, hlines.readHeader, ?_, hjs, horder, ?_,
        hreordered⟩
      · rw [hlines.headerText, hfirst]
      · rw [Item.parts, hlines.readBody, Except.ok_bind, h.construct]
        exact hks

end Reordered

end Item

end Overlay
