import Overlay.Proofs.Outline.Cut
import Overlay.Proofs.Text.Joined

/-!
Groups of lines. The lines of an item are the shortest run of lines that closes what
its first line begins, which can be told from the lines without reading them one after
the other. A unit is read as some items just when its lines can be divided into such
groups and blank lines, so it can be divided in one way at most.
-/

namespace Overlay

open Text

/-- Whether a list has a property and no list with which it begins has it too. -/
structure IsShortest {α : Type} (p : List α → Prop) (xs : List α) : Prop where
  holds : p xs
  least : ∀ ys, ys <+: xs → p ys → ys = xs

theorem IsShortest.unique {α : Type} {p : List α → Prop} {xs ys zs : List α}
    (hxs : IsShortest p xs) (hys : IsShortest p ys) (hx : xs <+: zs) (hy : ys <+: zs) :
    xs = ys := by
  rcases List.prefix_or_prefix_of_prefix hx hy with hle | hle
  · exact hys.least xs hle hxs.holds
  · exact (hxs.least ys hle hys.holds).symm

namespace Construct

/-- Whether the texts of some lines, joined by spaces, leave no bracket open. -/
def ClosesBrackets (lines : List (Nat × Text)) : Prop :=
  lines ≠ [] ∧ ∃ cs, Content lines cs ∧ bracketDepth ([' '].intercalate (texts cs)) = .ok 0

/-- Whether lines close the block that the first of them opens and all blocks that
later ones open. -/
def ClosesBlocks (lines : List (Nat × Text)) : Prop :=
  2 ≤ lines.length ∧ ∃ cs later, Content lines cs ∧ Content lines.tail later ∧
    (texts cs).countP isEnd = 1 + (texts later).countP isHeader

/-- Whether a construct is closed by the lines that were read for it. -/
def IsClosedBy (c : Construct) : List (Nat × Text) → Prop :=
  if c.isBlock then ClosesBlocks else ClosesBrackets

theorem ne_nil_of_opens {c : Construct} {t : Text} (h : c.opens t = true) : t ≠ [] := by
  rintro rfl
  cases c <;> cases h

/-! What fills a construct, told from where it ends. -/

theorem fills_of_unfinished {c : Construct} {done ts : List Text} (hne : ts ≠ [])
    (hends : c.ends (done ++ ts) = .ok true)
    (hopen : ∀ {us vs}, ts = us ++ vs → us ≠ [] → vs ≠ [] → c.ends (done ++ us) = .ok false) :
    c.Fills done ts := by
  induction ts generalizing done with
  | nil => exact absurd rfl hne
  | cons t ts ih =>
      by_cases hts : ts = []
      · subst hts
        exact .last hends
      · refine .more (hopen rfl (List.cons_ne_nil _ _) hts) (ih hts ?_ ?_)
        · rwa [List.append_assoc, List.singleton_append]
        · rintro us vs rfl hus hvs
          rw [List.append_assoc, List.singleton_append]
          exact hopen rfl (List.cons_ne_nil _ _) hvs

theorem rises_eq (ts : List Text) :
    rises ts = (ts.countP isHeader : Int) - (ts.countP isEnd : Int) := by
  induction ts with
  | nil => rfl
  | cons t ts ih =>
      rw [rises_cons, ih, List.countP_cons, List.countP_cons]
      by_cases hend : isEnd t = true
      · have hheader : isHeader t ≠ true := by
          intro h
          rw [isEnd_eq_false_of_isHeader h] at hend
          cases hend
        rw [rise, if_pos hend, if_pos hend, if_neg hheader]
        omega
      · by_cases hheader : isHeader t = true
        · rw [rise, if_neg hend, if_pos hheader, if_neg hend, if_pos hheader]
          omega
        · rw [rise, if_neg hend, if_neg hheader, if_neg hend, if_neg hheader]
          omega

/-- As long as a block is open, its depth is the balance of the lines after its first. -/
theorem blockDepth_eq {t : Text} {ts : List Text}
    (hopen : ∀ {us vs}, ts = us ++ vs → vs ≠ [] → blockDepth (t :: us) ≠ 0) :
    (blockDepth (t :: ts) : Int) = 1 + rises ts := by
  induction ts using List.reverseRecOn with
  | nil => rfl
  | append_singleton ts u ih =>
      -- The depth does not go below zero, but that matters only where the block is closed.
      have hdepth := ih fun {us vs} h hvs =>
        @hopen us (vs ++ [u]) (by rw [h, List.append_assoc]) (by simp)
      have hrise := depthAfter_eq (hopen rfl (List.cons_ne_nil u [])) u
      rw [← List.cons_append, blockDepth_concat (List.cons_ne_nil t ts), hrise, hdepth,
        rises_append, rises_cons, rises_nil]
      omega

/-- A block is open as long as no balance of its lines says that it was closed. -/
theorem blockDepth_ne_zero {t : Text} {ts : List Text}
    (hopen : ∀ {us vs}, ts = us ++ vs → 1 + rises us ≠ 0) : blockDepth (t :: ts) ≠ 0 := by
  induction hlen : ts.length using Nat.strongRecOn generalizing ts with
  | ind n ih =>
      have hdepth : (blockDepth (t :: ts) : Int) = 1 + rises ts := by
        refine blockDepth_eq fun {us vs} h hvs => ?_
        refine ih us.length ?_ (fun {xs ys} hus => @hopen xs (ys ++ vs) ?_) rfl
        · have hpos := List.length_pos_iff.2 hvs
          rw [← hlen, h, List.length_append]
          omega
        · rw [h, hus, List.append_assoc]
      have hne := hopen (List.append_nil ts).symm
      omega

end Construct

namespace Content

variable {number : Nat} {line t : Text} {rest cs : List (Nat × Text)}

theorem exists_later (h : Content ((number, line) :: rest) cs) (hline : line.stripComment = .ok t)
    (hne : t ≠ []) : ∃ later, cs = (number, t) :: later ∧ Content rest later := by
  cases h with
  | blank hblank _ =>
      rw [hline] at hblank
      cases hblank
      exact absurd rfl hne
  | line hline' _ h =>
      rw [hline] at hline'
      cases hline'
      exact ⟨_, rfl, h⟩

/-- Lines can be taken apart where their content is. -/
theorem exists_append {lines cs ds : List (Nat × Text)} (h : Content lines (cs ++ ds)) :
    ∃ ls ms, lines = ls ++ ms ∧ Content ls cs ∧ Content ms ds := by
  generalize hes : cs ++ ds = es at h
  induction h generalizing cs with
  | nil =>
      obtain ⟨rfl, rfl⟩ := List.append_eq_nil_iff.1 hes
      exact ⟨[], [], rfl, .nil, .nil⟩
  | blank hblank _ ih =>
      obtain ⟨ls, ms, rfl, hls, hms⟩ := ih hes
      exact ⟨_ :: ls, ms, rfl, .blank hblank hls, hms⟩
  | line hline hne h ih =>
      cases cs with
      | nil =>
          obtain rfl : ds = _ := hes
          exact ⟨[], _, rfl, .nil, .line hline hne h⟩
      | cons c cs =>
          obtain ⟨rfl, rfl⟩ := List.cons.inj hes
          obtain ⟨ls, ms, rfl, hls, hms⟩ := ih rfl
          exact ⟨_ :: ls, ms, rfl, .line hline hne hls, hms⟩

/-- The last of the lines that hold nothing is not a line that holds something. -/
theorem eq_nil_of_endsFilled {ls ms : List (Nat × Text)} (h : Content ms [])
    (hends : EndsFilled (ls ++ ms)) : ms = [] := by
  rcases List.eq_nil_or_concat ms with rfl | ⟨ms, l, rfl⟩
  · rfl
  · obtain ⟨l', before, t, heq, ht, hne⟩ := hends
    rw [List.concat_eq_append, ← List.append_assoc] at heq
    obtain ⟨-, hlast⟩ := List.append_inj' heq rfl
    obtain rfl := List.singleton_inj.1 hlast
    rw [List.concat_eq_append] at h
    obtain ⟨ds, ds', hnil, -, hl⟩ := h.of_append
    rw [(List.append_eq_nil_iff.1 hnil.symm).2] at hl
    cases hl with
    | blank hblank _ =>
        rw [ht] at hblank
        cases hblank
        exact absurd rfl hne

end Content

namespace Construct

variable {c : Construct}

/-- Whether a construct is closed by its first text and the texts that follow it. -/
def ClosesTexts (c : Construct) (t : Text) (ts : List Text) : Prop :=
  if c.isBlock then 1 + rises ts = 0 else c.ends (t :: ts) = .ok true

theorem closesTexts_block_iff (hblock : c.isBlock = true) {t : Text} {ts : List Text} :
    c.ClosesTexts t ts ↔ 1 + rises ts = 0 := by
  rw [ClosesTexts, if_pos hblock]

theorem closesTexts_leaf_iff (hleaf : c.isBlock = false) {t : Text} {ts : List Text} :
    c.ClosesTexts t ts ↔ c.ends (t :: ts) = .ok true := by
  rw [ClosesTexts, hleaf, if_neg Bool.false_ne_true]

theorem fills_block_iff (hblock : c.isBlock = true) {t : Text} {ts : List Text} :
    c.Fills [] (t :: ts) ↔
      c.ClosesTexts t ts ∧ ∀ us vs, ts = us ++ vs → vs ≠ [] → ¬ c.ClosesTexts t us := by
  constructor
  · intro h
    have hopen {us vs : List Text} (hts : ts = us ++ vs) (hvs : vs ≠ []) :
        blockDepth (t :: us) ≠ 0 := by
      subst hts
      have hends := @Fills.unfinished c [] (t :: us) vs h (List.cons_ne_nil _ _) hvs
      simpa using (ends_block_iff hblock).1 hends
    refine ⟨?_, fun us vs hts hvs hclosed => hopen hts hvs ?_⟩
    · have hzero := (ends_block_iff hblock).1 h.ends
      rw [closesTexts_block_iff hblock, ← blockDepth_eq hopen]
      simpa using hzero
    · rw [closesTexts_block_iff hblock, ← blockDepth_eq] at hclosed
      · exact_mod_cast hclosed
      · intro xs ys hus hys
        refine @hopen xs (ys ++ vs) ?_ (by simp [hys])
        rw [hts, hus, List.append_assoc]
  · rintro ⟨hclosed, hopen⟩
    -- What is not closed by its balance has not been closed before either.
    have hdepth {us vs : List Text} (hts : ts = us ++ vs) (hvs : vs ≠ []) :
        blockDepth (t :: us) ≠ 0 := by
      refine blockDepth_ne_zero fun {xs ys} hus => ?_
      rw [ne_eq, ← closesTexts_block_iff (t := t) hblock]
      refine hopen xs (ys ++ vs) ?_ (by simp [hvs])
      rw [hts, hus, List.append_assoc]
    refine fills_of_unfinished (List.cons_ne_nil _ _) ?_ ?_
    · rw [closesTexts_block_iff hblock, ← blockDepth_eq hdepth] at hclosed
      rw [ends_block_iff hblock]
      simpa using hclosed
    · intro us vs hts hus hvs
      obtain ⟨u, us, rfl⟩ := List.exists_cons_of_ne_nil hus
      obtain ⟨rfl, htail⟩ := List.cons.inj hts
      rw [ends_block_iff hblock]
      simpa using hdepth htail hvs

theorem fills_leaf_iff (hleaf : c.isBlock = false) {t : Text} {ts : List Text}
    (hfit : ∀ us vs, ts = us ++ vs →
      ∃ depth, bracketDepth ([' '].intercalate (t :: us)) = .ok depth) :
    c.Fills [] (t :: ts) ↔
      c.ClosesTexts t ts ∧ ∀ us vs, ts = us ++ vs → vs ≠ [] → ¬ c.ClosesTexts t us := by
  simp only [closesTexts_leaf_iff hleaf]
  constructor
  · intro h
    refine ⟨h.ends, ?_⟩
    rintro us vs rfl hvs hclosed
    have hopen := @Fills.unfinished c [] (t :: us) vs h (List.cons_ne_nil _ _) hvs
    rw [List.nil_append, hclosed] at hopen
    cases hopen
  · rintro ⟨hclosed, hopen⟩
    refine fills_of_unfinished (List.cons_ne_nil _ _) hclosed ?_
    intro us vs hts hus hvs
    obtain ⟨u, us, rfl⟩ := List.exists_cons_of_ne_nil hus
    obtain ⟨rfl, htail⟩ := List.cons.inj hts
    obtain ⟨depth, hdepth⟩ := hfit us vs htail
    have hmore := hopen us vs htail hvs
    rw [ends_leaf_iff hleaf, hdepth, Except.ok.injEq] at hmore
    rw [List.nil_append, ends_leaf hleaf, hdepth]
    simpa [Except.map] using hmore

end Construct

/-! Closed lines and closed texts. -/

namespace Construct

variable {c : Construct} {number : Nat} {line t : Text} {rest later : List (Nat × Text)}

theorem isClosedBy_iff (hline : line.stripComment = .ok t) (hopens : c.opens t = true)
    (h : Content rest later) :
    c.IsClosedBy ((number, line) :: rest) ↔ c.ClosesTexts t (texts later) := by
  have hall : Content ((number, line) :: rest) ((number, t) :: later) :=
    .line hline (ne_nil_of_opens hopens) h
  cases hblock : c.isBlock with
  | false =>
      rw [IsClosedBy, hblock, if_neg Bool.false_ne_true, closesTexts_leaf_iff hblock,
        ends_leaf_iff hblock]
      constructor
      · rintro ⟨-, cs, hcs, hdepth⟩
        rwa [hcs.unique hall] at hdepth
      · intro hdepth
        exact ⟨List.cons_ne_nil _ _, _, hall, hdepth⟩
  | true =>
      have hheader := isHeader_of_opens hblock hopens
      -- The first line opens the block and is no `end`, so it adds nothing to the count.
      have hcount : (texts ((number, t) :: later)).countP isEnd = (texts later).countP isEnd :=
        List.countP_cons_of_neg (by simp [isEnd_eq_false_of_isHeader hheader])
      have hrises := rises_eq (texts later)
      rw [IsClosedBy, if_pos hblock, closesTexts_block_iff hblock]
      constructor
      · rintro ⟨-, cs, ds, hcs, hds, hbalance⟩
        rw [hcs.unique hall, hcount, hds.unique h] at hbalance
        omega
      · intro hzero
        refine ⟨?_, _, later, hall, h, ?_⟩
        · cases h with
          | nil => simp at hzero
          | blank _ _ => simp
          | line _ _ _ => simp
        · rw [hcount]
          omega

theorem IsClosedBy.ne_nil {lines : List (Nat × Text)} (h : c.IsClosedBy lines) : lines ≠ [] := by
  rintro rfl
  unfold IsClosedBy at h
  split at h
  · have hlen := h.1
    simp at hlen
  · exact h.1 rfl

theorem fills_iff (hline : line.stripComment = .ok t) (hopens : c.opens t = true)
    (h : Content rest later) (hfit : c.isBlock = false →
      ∃ depth, bracketDepth ([' '].intercalate (texts ((number, t) :: later))) = .ok depth) :
    c.Fills [] (texts ((number, t) :: later)) ↔ c.ClosesTexts t (texts later) ∧
      ∀ us vs, texts later = us ++ vs → vs ≠ [] → ¬ c.ClosesTexts t us := by
  cases hblock : c.isBlock with
  | true => exact fills_block_iff hblock
  | false =>
      refine fills_leaf_iff hblock fun us vs hts => ?_
      obtain ⟨ds, ds', rfl, rfl, rfl⟩ := List.map_eq_append_iff.1 hts
      obtain ⟨ls, ms, rfl, hls, -⟩ := h.exists_append
      obtain ⟨depth, hdepth⟩ := hfit hblock
      exact (Content.line hline (ne_nil_of_opens hopens) hls).exists_bracketDepth hdepth

theorem fills_of_isShortest (hline : line.stripComment = .ok t) (hopens : c.opens t = true)
    (h : Content rest later) (hshortest : IsShortest c.IsClosedBy ((number, line) :: rest)) :
    c.Fills [] (texts ((number, t) :: later)) := by
  have hcloses := (isClosedBy_iff hline hopens h).1 hshortest.holds
  have hfit (hleaf : c.isBlock = false) :
      ∃ depth, bracketDepth ([' '].intercalate (texts ((number, t) :: later))) = .ok depth :=
    ⟨0, (ends_leaf_iff hleaf).1 ((closesTexts_leaf_iff hleaf).1 hcloses)⟩
  refine (fills_iff hline hopens h hfit).2 ⟨hcloses, fun us vs hts hvs hcloses => ?_⟩
  obtain ⟨ds, ds', rfl, rfl, rfl⟩ := List.map_eq_append_iff.1 hts
  obtain ⟨ls, ms, rfl, hls, hms⟩ := h.exists_append
  have hall := hshortest.least _ ⟨ms, rfl⟩ ((isClosedBy_iff hline hopens hls).2 hcloses)
  obtain rfl : ms = [] := by simpa using hall
  cases hms
  exact hvs rfl

theorem isShortest_of_fills (hline : line.stripComment = .ok t) (hopens : c.opens t = true)
    (h : Content rest later) (hfills : c.Fills [] (texts ((number, t) :: later)))
    (hends : EndsFilled ((number, line) :: rest)) :
    IsShortest c.IsClosedBy ((number, line) :: rest) := by
  have hfit (hleaf : c.isBlock = false) :
      ∃ depth, bracketDepth ([' '].intercalate (texts ((number, t) :: later))) = .ok depth :=
    ⟨0, (ends_leaf_iff hleaf).1 hfills.ends⟩
  obtain ⟨hcloses, hopen⟩ := (fills_iff hline hopens h hfit).1 hfills
  refine ⟨(isClosedBy_iff hline hopens h).2 hcloses, ?_⟩
  rintro ys ⟨ms, hys⟩ hclosed
  obtain ⟨l, ls, rfl⟩ := List.exists_cons_of_ne_nil hclosed.ne_nil
  rw [List.cons_append] at hys
  obtain ⟨rfl, rfl⟩ := List.cons.inj hys
  obtain ⟨ds, ds', rfl, hls, hms⟩ := h.of_append
  rw [isClosedBy_iff hline hopens hls] at hclosed
  obtain rfl : ds' = [] := by
    by_contra hne
    exact hopen (texts ds) (texts ds') (texts_append ds ds') (by simpa using hne) hclosed
  rw [← List.cons_append] at hends
  rw [hms.eq_nil_of_endsFilled hends, List.append_nil]

end Construct

theorem SourceUnit.numberFrom_inj {number number' : Nat} {lines lines' : List Text}
    (hne : numberFrom number lines ≠ [])
    (h : numberFrom number lines = numberFrom number' lines') :
    number = number' ∧ lines = lines' := by
  have hlines := congrArg (List.map Prod.snd) h
  rw [texts_numberFrom, texts_numberFrom] at hlines
  refine ⟨?_, hlines⟩
  cases lines with
  | nil => exact absurd rfl hne
  | cons line lines =>
      subst hlines
      exact congrArg Prod.fst (List.cons.inj h).1

namespace Item

/-- An item that is being read, after some more lines. -/
def Open.feedAll (o : Open) : List (Nat × Text) → Except Fault Open
  | [] => .ok o
  | (_, line) :: rest => do
    let stripped ← line.stripComment
    (o.feed line stripped).feedAll rest

/-- Whether the lines of an item are a group: the first candidate that fits its first line
is closed by them, and by no fewer of them. What is kept as the text of a declaration
or a rule is what was collected to look for its end. -/
structure IsGroup (candidates : List Construct) (i : Item) : Prop where
  begins : ∃ number line rest t, i.unit.numberedLines = (number, line) :: rest ∧
    line.stripComment = .ok t ∧ candidates.find? (·.opens t) = some i.construct ∧
    (i.construct.isBlock = false → ∃ o,
      (Open.start i.construct number line t).feedAll rest = .ok o ∧ i.unit.text = o.text)
  ends : IsShortest i.construct.IsClosedBy i.unit.numberedLines
  made : SourceUnit.ofLines i.unit.first i.unit.lines = .ok i.unit

theorem Open.exists_feedAll {o : Open} (hleaf : o.construct.isBlock = false)
    {lines cs : List (Nat × Text)} (h : Content lines cs) :
    ∃ o', o.feedAll lines = .ok o' ∧ o'.text = [' '].intercalate (o.text :: texts cs) := by
  induction h generalizing o with
  | nil => exact ⟨o, rfl, List.intercalate_singleton.symm⟩
  | @blank number line lines cs hblank _ ih =>
      obtain ⟨o', ho', htext⟩ := @ih (o.feed line []) (by rwa [construct_feed])
      rw [text_feed hleaf] at htext
      exact ⟨o', by rw [feedAll, hblank, Except.ok_bind, ho'], htext⟩
  | @line number line t lines cs hline hne _ ih =>
      obtain ⟨o', ho', htext⟩ := @ih (o.feed line t) (by rwa [construct_feed])
      rw [text_feed hleaf, if_neg (by simpa using hne)] at htext
      refine ⟨o', by rw [feedAll, hline, Except.ok_bind, ho'], ?_⟩
      rw [htext, texts_cons, List.intercalate_cons_cons, intercalate_append_left, List.append_assoc]
      exact congrArg (o.text ++ ·) (intercalate_append_left [' '] [' '] t (texts cs))

section

variable {candidates : List Construct} {i j : Item} {lines : List (Nat × Text)}
  {items : List Item}

theorem IsRead.isGroup {cs : List (Nat × Text)} (h : IsRead candidates i cs) :
    IsGroup candidates i := by
  obtain ⟨⟨number, line⟩, rest, t, hlines, hline, hne⟩ := h.holds.starts
  have hcontent := h.holds.content
  have hends := h.holds.ends
  rw [hlines] at hcontent hends
  obtain ⟨later, rfl, hlater⟩ := hcontent.exists_later hline hne
  have hopens := List.find?_some h.passage.begins
  refine ⟨?begins, ?ends, ?made⟩
  case begins =>
    refine ⟨number, line, rest, t, hlines, hline, h.passage.begins, fun hleaf => ?_⟩
    obtain ⟨o, ho, htext⟩ :=
      @Open.exists_feedAll (.start i.construct number line t) hleaf _ _ hlater
    exact ⟨o, ho, h.holds.text.trans htext.symm⟩
  case ends =>
    rw [hlines]
    exact Construct.isShortest_of_fills hline hopens hlater h.passage.fills hends
  case made =>
    rw [SourceUnit.ofLines_eq_ok_iff]
    exact ⟨_, h.holds.content, congrArg (SourceUnit.mk _ _) h.holds.text⟩

theorem IsGroup.exists_isPassage (h : IsGroup candidates i) :
    ∃ cs, Content i.unit.numberedLines cs ∧ IsPassage candidates i.construct (texts cs) := by
  obtain ⟨number, line, rest, t, hlines, hline, hfind, -⟩ := h.begins
  obtain ⟨cs, hcontent, -⟩ := SourceUnit.ofLines_eq_ok_iff.1 h.made
  rw [← SourceUnit.numberedLines] at hcontent
  have hopens := List.find?_some hfind
  have hends := h.ends
  have hall := hcontent
  rw [hlines] at hall hends
  obtain ⟨later, rfl, hlater⟩ := hall.exists_later hline (Construct.ne_nil_of_opens hopens)
  exact ⟨_, hcontent, hfind, Construct.fills_of_isShortest hline hopens hlater hends⟩

/-- Lines that can be divided into groups are read as their items. -/
theorem CutInto.exists_passages (h : CutInto lines items)
    (hgroup : ∀ i ∈ items, IsGroup candidates i) :
    ∃ css, Content lines css.flatten ∧ List.Forall₂
      (fun c cs => IsPassage candidates c (texts cs)) (items.map construct) css := by
  induction h with
  | nil => exact ⟨[], .nil, .nil⟩
  | blank hblank _ ih =>
      obtain ⟨css, hcontent, hpassages⟩ := ih hgroup
      exact ⟨css, .blank (not_not.1 hblank) hcontent, hpassages⟩
  | item _ ih =>
      obtain ⟨hi, hitems⟩ := List.forall_mem_cons.1 hgroup
      obtain ⟨cs, hcs, hpassage⟩ := hi.exists_isPassage
      obtain ⟨css, hcontent, hpassages⟩ := ih hitems
      exact ⟨cs :: css, hcs.append hcontent, .cons hpassage hpassages⟩

/-- What begins at a line is one group at most. -/
theorem IsGroup.unique (hi : IsGroup candidates i) (hj : IsGroup candidates j)
    (hilines : i.unit.numberedLines <+: lines) (hjlines : j.unit.numberedLines <+: lines) :
    i = j := by
  obtain ⟨number, line, rest, t, hinumbered, hline, hfind, -⟩ := hi.begins
  obtain ⟨number', line', rest', t', hjnumbered, hline', hfind', -⟩ := hj.begins
  have hiends := hi.ends
  have hjends := hj.ends
  obtain ⟨ms, rfl⟩ := hilines
  -- Both begin with the same line, so they are of one construct.
  obtain ⟨rfl, rfl⟩ : number' = number ∧ line' = line := by
    obtain ⟨ms', hms'⟩ := hjlines
    rw [hinumbered, hjnumbered, List.cons_append, List.cons_append] at hms'
    exact Prod.mk.inj (List.cons.inj hms').1
  have hconstruct : j.construct = i.construct := by
    rw [hline] at hline'
    cases hline'
    rw [hfind] at hfind'
    exact (Option.some.inj hfind').symm
  rw [hconstruct] at hjends
  have hsame := hiends.unique hjends (List.prefix_append _ ms) hjlines
  obtain ⟨hfirst, hlines⟩ := SourceUnit.numberFrom_inj hiends.holds.ne_nil hsame
  have hunit : i.unit = j.unit := by
    have hmade := hi.made
    rw [hfirst, hlines, hj.made] at hmade
    exact (Except.ok.inj hmade).symm
  obtain ⟨c, u⟩ := i
  obtain ⟨c', u'⟩ := j
  obtain rfl : c' = c := hconstruct
  obtain rfl : u = u' := hunit
  rfl

theorem IsGroup.exists_first (h : IsGroup candidates i) :
    ∃ l rest, i.unit.numberedLines = l :: rest ∧ HoldsText l := by
  obtain ⟨number, line, rest, t, hlines, hline, hfind, -⟩ := h.begins
  have hopens := List.find?_some hfind
  refine ⟨_, rest, hlines, fun hblank => ?_⟩
  rw [hline] at hblank
  cases hblank
  exact Construct.ne_nil_of_opens hopens rfl

theorem CutInto.of_blank {l : Nat × Text} (hl : ¬ HoldsText l) (h : CutInto (l :: lines) items)
    (hgroup : ∀ i ∈ items, IsGroup candidates i) : CutInto lines items := by
  generalize hall : l :: lines = all at h
  cases h with
  | nil => cases hall
  | blank _ h =>
      obtain ⟨-, rfl⟩ := List.cons.inj hall
      exact h
  | item _ =>
      obtain ⟨l', rest, hfirst, hholds⟩ := (hgroup _ List.mem_cons_self).exists_first
      rw [hfirst, List.cons_append] at hall
      rw [(List.cons.inj hall).1] at hl
      exact absurd hholds hl

theorem CutInto.of_group (hi : IsGroup candidates i)
    (h : CutInto (i.unit.numberedLines ++ lines) items)
    (hgroup : ∀ i ∈ items, IsGroup candidates i) :
    ∃ more, items = i :: more ∧ CutInto lines more := by
  generalize hall : i.unit.numberedLines ++ lines = all at h
  cases h with
  | nil => exact absurd (List.append_eq_nil_iff.1 hall).1 hi.ends.holds.ne_nil
  | blank hblank _ =>
      obtain ⟨l, rest, hfirst, hholds⟩ := hi.exists_first
      rw [hfirst, List.cons_append] at hall
      rw [(List.cons.inj hall).1] at hholds
      exact absurd hholds hblank
  | @item j lines' more h =>
      obtain rfl := hi.unique (hgroup j List.mem_cons_self) ⟨lines, hall⟩ (List.prefix_append _ _)
      obtain rfl := List.append_cancel_left hall
      exact ⟨more, rfl, h⟩

/-- Lines are divided into groups in one way at most. -/
theorem CutInto.unique (h : CutInto lines items) (hgroup : ∀ i ∈ items, IsGroup candidates i)
    {others : List Item} (h' : CutInto lines others)
    (hgroup' : ∀ i ∈ others, IsGroup candidates i) : items = others := by
  induction h generalizing others with
  | nil =>
      generalize hlines : [] = lines at h'
      cases h' with
      | nil => rfl
      | blank => cases hlines
      | item =>
          have hne := (hgroup' _ List.mem_cons_self).ends.holds.ne_nil
          exact absurd (List.append_eq_nil_iff.1 hlines.symm).1 hne
  | blank hblank _ ih => exact ih hgroup (h'.of_blank hblank hgroup') hgroup'
  | item _ ih =>
      obtain ⟨hi, hitems⟩ := List.forall_mem_cons.1 hgroup
      obtain ⟨more, rfl, hmore⟩ := h'.of_group hi hgroup'
      rw [ih hitems hmore (List.forall_mem_cons.1 hgroup').2]

end

/-- A unit is read as items just when its lines are divided into groups, one for each
item, and blank lines. -/
theorem list_eq_ok_iff {candidates : List Construct} {u : SourceUnit} {items : List Item} :
    list u candidates = .ok items ↔
      CutInto u.numberedLines items ∧ ∀ i ∈ items, IsGroup candidates i := by
  have hdivision {items : List Item} (h : list u candidates = .ok items) :
      CutInto u.numberedLines items ∧ ∀ i ∈ items, IsGroup candidates i := by
    refine ⟨cutInto_of_list h, fun i hi => ?_⟩
    obtain ⟨cs, hread⟩ := exists_isRead_of_mem h hi
    exact hread.isGroup
  constructor
  · exact hdivision
  · rintro ⟨hcut, hgroup⟩
    obtain ⟨css, hcontent, hpassages⟩ := hcut.exists_passages hgroup
    obtain ⟨others, hothers, -, -⟩ := list_of_passages hcontent hpassages
    obtain ⟨hcut', hgroup'⟩ := hdivision hothers
    rw [hcut.unique hgroup hcut' hgroup', hothers]

end Item

end Overlay
