import Overlay.Proofs.Outline.Passage

/-!
Items and passages. A unit is read as items exactly when its content can be cut
into passages; the items are then those of the passages, one after the other.
-/

namespace Overlay.Item

open Text

/-- Whether a unit is cut into the passages of some items. -/
def ReadsAs (candidates : List Construct) (lines : List (Nat × Text)) (items : List Item) : Prop :=
  ∃ css, Content lines css.flatten ∧ List.Forall₂ (IsRead candidates) items css

/-- Whether a unit goes on with the rest of the first of some items, of which a
part was read, and is then cut into the passages of the others. -/
def ReadsOn (candidates : List Construct) (c : Construct) (done : List (Nat × Text))
    (lines : List (Nat × Text)) (items : List Item) : Prop :=
  ∃ i is cs css, items = i :: is ∧ i.construct = c ∧ Content lines (cs ++ css.flatten) ∧
    c.Fills (texts done) (texts cs) ∧ i.Holds (done ++ cs) ∧
    List.Forall₂ (IsRead candidates) is css

section

variable {candidates : List Construct} {number : Nat} {line t : Text}
  {done lines : List (Nat × Text)} {o : Open} {items : List Item}

theorem ReadsAs.blank (h : ReadsAs candidates lines items) (hline : line.stripComment = .ok []) :
    ReadsAs candidates ((number, line) :: lines) items := by
  obtain ⟨css, hcontent, hall⟩ := h
  exact ⟨css, .blank hline hcontent, hall⟩

theorem ReadsOn.blank {c : Construct} (h : ReadsOn candidates c done lines items)
    (hline : line.stripComment = .ok []) :
    ReadsOn candidates c done ((number, line) :: lines) items := by
  obtain ⟨i, is, cs, css, rfl, hi, hcontent, hfills, hholds, his⟩ := h
  exact ⟨i, is, cs, css, rfl, hi, .blank hline hcontent, hfills, hholds, his⟩

theorem readsOn_of_resume (ho : o.Holds (done ++ [(number, t)]))
    (hfilled : EndsFilled (SourceUnit.numberFrom o.first o.lines))
    (hline : line.stripComment = .ok t) (hne : t ≠ [])
    (hlast : ∀ {is}, listFrom candidates none lines = .ok is → ReadsAs candidates lines is)
    (hmore : o.construct.ends (texts (done ++ [(number, t)])) = .ok false →
      listFrom candidates (some o) lines = .ok items →
      ReadsOn candidates o.construct (done ++ [(number, t)]) lines items)
    (h : resume candidates o lines = .ok items) :
    ReadsOn candidates o.construct done ((number, line) :: lines) items := by
  cases hcomplete : o.isComplete with
  | error cause =>
      rw [resume, hcomplete] at h
      cases h
  | ok b =>
      have hends := ho.isComplete_eq ▸ hcomplete
      cases b with
      | false =>
          rw [resume_of_more hcomplete] at h
          obtain ⟨i, is, cs, css, rfl, hi, hcontent, hfills, hholds, his⟩ := hmore hends h
          rw [List.append_assoc, List.singleton_append] at hholds
          rw [texts_append] at hends hfills
          exact ⟨i, is, (number, t) :: cs, css, rfl, hi, .line hline hne hcontent,
            .more hends hfills, hholds, his⟩
      | true =>
          rw [resume_of_last hcomplete] at h
          obtain ⟨i, hi, h⟩ := Except.bind_eq_ok_iff.1 h
          obtain ⟨is, his, h⟩ := Except.bind_eq_ok_iff.1 h
          cases h
          obtain ⟨css, hcontent, hall⟩ := hlast his
          obtain ⟨i', hi', hconstruct, hholds⟩ := ho.close hfilled
          rw [hi] at hi'
          cases hi'
          rw [texts_append] at hends
          exact ⟨i, is, [(number, t)], css, rfl, hconstruct, .line hline hne hcontent,
            .last hends, hholds, hall⟩

theorem readsAs_of_readsOn {c : Construct} (hline : line.stripComment = .ok t) (hne : t ≠ [])
    (hbegin : candidates.find? (·.opens t) = some c)
    (h : ReadsOn candidates c [] ((number, line) :: lines) items) :
    ReadsAs candidates ((number, line) :: lines) items := by
  obtain ⟨i, is, cs, css, rfl, rfl, hcontent, hfills, hholds, his⟩ := h
  refine ⟨cs :: css, hcontent, .cons ⟨⟨?_, hfills⟩, hholds⟩ his⟩
  have hcs : cs ≠ [] := fun hnil => hfills.ne_nil (texts_eq_nil_iff.2 hnil)
  obtain ⟨first, cs, rfl⟩ := List.exists_cons_of_ne_nil hcs
  cases hcontent with
  | blank hblank _ =>
      rw [hline] at hblank
      cases hblank
      exact absurd rfl hne
  | line hline' _ _ =>
      rw [hline] at hline'
      cases hline'
      exact hbegin

theorem begin?_eq_ok_iff :
    begin? candidates number line t = .ok o ↔
      ∃ c, candidates.find? (·.opens t) = some c ∧ o = .start c number line t := by
  unfold begin?
  split
  · next c hc => simp [hc, eq_comm]
  · next hc => simp [hc]

end

/-- The items that were read are those of the passages of the content. -/
theorem reads_of_listFrom {candidates : List Construct} {number : Nat} {lines : List Text}
    {items : List Item} :
    (listFrom candidates none (SourceUnit.numberFrom number lines) = .ok items →
      ReadsAs candidates (SourceUnit.numberFrom number lines) items) ∧
    ∀ {o done}, o.Holds done → o.first + o.lines.length = number →
      o.construct.ends (texts done) = .ok false →
      listFrom candidates (some o) (SourceUnit.numberFrom number lines) = .ok items →
      ReadsOn candidates o.construct done (SourceUnit.numberFrom number lines) items := by
  -- Both at once: what is read after a line begins with an open item or with none.
  induction lines generalizing number items with
  | nil =>
      constructor
      · intro h
        cases h
        exact ⟨[], .nil, .nil⟩
      · intro o done _ _ _ h
        cases h
  | cons line lines ih =>
      rw [SourceUnit.numberFrom]
      cases hline : line.stripComment with
      | error cause =>
          exact ⟨fun h => absurd h (listFrom_error hline),
            fun _ _ _ h => absurd h (listFrom_error hline)⟩
      | ok t =>
          by_cases hne : t = []
          · subst hne
            constructor
            · intro h
              rw [listFrom_blank hline] at h
              exact (ih.1 h).blank hline
            · intro o done ho hnumber hopen h
              rw [listFrom_next o hline,
                resume_of_more (ho.isComplete_feed_blank hline hopen)] at h
              rw [← Open.construct_feed o line []] at hopen ⊢
              exact (ih.2 (ho.feed_blank hline) (Open.first_add_length_feed hnumber line [])
                hopen h).blank hline
          · constructor
            · intro h
              rw [listFrom_first hline hne] at h
              obtain ⟨o, ho, h⟩ := Except.bind_eq_ok_iff.1 h
              obtain ⟨c, hc, rfl⟩ := begin?_eq_ok_iff.1 ho
              have ho := Open.holds_start c number hline hne
              exact readsAs_of_readsOn hline hne hc
                (readsOn_of_resume ho (Open.endsFilled_start c number hline hne) hline hne ih.1
                  (fun hopen h => ih.2 ho rfl hopen h) h)
            · intro o done ho hnumber _ h
              have ho' := ho.feed hline hne
              have hnumber' := Open.first_add_length_feed hnumber line t
              rw [listFrom_next o hline] at h
              rw [hnumber] at ho'
              have hreads := readsOn_of_resume ho' (Open.endsFilled_feed o hline hne) hline hne ih.1
                (fun hopen h => ih.2 ho' hnumber' hopen h) h
              rwa [Open.construct_feed] at hreads

/-! Passages are read as items. -/

section

variable {candidates : List Construct} {number : Nat} {line t : Text}
  {done cs lines : List (Nat × Text)} {constructs : List Construct}
  {css : List (List (Nat × Text))} {o : Open}

/-- Whether a unit is read as items of some constructs, one for each passage. -/
def Succeeds (candidates : List Construct) (lines : List (Nat × Text))
    (constructs : List Construct) (css : List (List (Nat × Text))) : Prop :=
  ∃ items, listFrom candidates none lines = .ok items ∧ items.map construct = constructs ∧
    List.Forall₂ (IsRead candidates) items css

/-- Whether a unit is read as the rest of an item and items of some constructs. -/
def GoesOn (candidates : List Construct) (o : Open) (done : List (Nat × Text))
    (cs : List (Nat × Text)) (constructs : List Construct) (css : List (List (Nat × Text)))
    (result : Except Diagnostic (List Item)) : Prop :=
  ∃ i is, result = .ok (i :: is) ∧ i.construct = o.construct ∧ i.Holds (done ++ cs) ∧
    is.map construct = constructs ∧ List.Forall₂ (IsRead candidates) is css

theorem resume_of_fills {c : Construct} (ho : o.Holds (done ++ [(number, t)]))
    (hc : o.construct = c) (hfilled : EndsFilled (SourceUnit.numberFrom o.first o.lines))
    (hfills : c.Fills (texts done) (t :: texts cs))
    (hlast : cs = [] → Succeeds candidates lines constructs css)
    (hmore : c.ends (texts (done ++ [(number, t)])) = .ok false →
      c.Fills (texts (done ++ [(number, t)])) (texts cs) →
      GoesOn candidates o (done ++ [(number, t)]) cs constructs css
        (listFrom candidates (some o) lines)) :
    GoesOn candidates o done ((number, t) :: cs) constructs css (resume candidates o lines) := by
  subst hc
  have hcomplete := ho.isComplete_eq
  rw [texts_append] at hcomplete hmore
  generalize htexts : t :: texts cs = ts at hfills
  cases hfills with
  | last hends =>
      obtain ⟨rfl, hnil⟩ := List.cons.inj htexts
      obtain rfl := texts_eq_nil_iff.1 hnil
      obtain ⟨items, hitems, hconstructs, hall⟩ := hlast rfl
      obtain ⟨i, hi, hconstruct, hholds⟩ := ho.close hfilled
      refine ⟨i, items, ?_, hconstruct, hholds, hconstructs, hall⟩
      rw [resume_of_last (hcomplete.trans hends), hi, Except.ok_bind, hitems, Except.ok_bind]
  | more hends hfills =>
      obtain ⟨rfl, rfl⟩ := List.cons.inj htexts
      obtain ⟨i, is, hresult, hi, hholds, his, hall⟩ := hmore hends hfills
      refine ⟨i, is, ?_, hi, ?_, his, hall⟩
      · rw [resume_of_more (hcomplete.trans hends), hresult]
      · rwa [List.append_assoc, List.singleton_append] at hholds

theorem Succeeds.blank (h : Succeeds candidates lines constructs css)
    (hline : line.stripComment = .ok []) :
    Succeeds candidates ((number, line) :: lines) constructs css := by
  obtain ⟨items, hitems, hrest⟩ := h
  exact ⟨items, by rw [listFrom_blank hline, hitems], hrest⟩

/-- The line that begins an item goes on like the lines that are fed to it. -/
theorem Succeeds.cons {c : Construct} (hline : line.stripComment = .ok t) (hne : t ≠ [])
    (hpassage : IsPassage candidates c (texts ((number, t) :: cs)))
    (h : GoesOn candidates (.start c number line t) [] ((number, t) :: cs) constructs css
      (resume candidates (.start c number line t) lines)) :
    Succeeds candidates ((number, line) :: lines) (c :: constructs)
      (((number, t) :: cs) :: css) := by
  obtain ⟨i, is, hresult, hi, hholds, his, hall⟩ := h
  have hbegin : begin? candidates number line t = .ok (.start c number line t) :=
    begin?_eq_ok_iff.2 ⟨c, hpassage.begins, rfl⟩
  obtain rfl : i.construct = c := hi
  refine ⟨i :: is, ?_, ?_, .cons ⟨hpassage, hholds⟩ hall⟩
  · rw [listFrom_first hline hne, hbegin, Except.ok_bind, hresult]
  · rw [List.map_cons, his]

theorem goesOn_feed (o : Open) (line t : Text) {result : Except Diagnostic (List Item)} :
    GoesOn candidates (o.feed line t) done cs constructs css result ↔
      GoesOn candidates o done cs constructs css result := by
  rw [GoesOn, GoesOn, Open.construct_feed]

end

/-- A unit whose content is cut into passages is read as their items. -/
theorem listFrom_of_passages {candidates : List Construct} {number : Nat} {lines : List Text}
    {constructs : List Construct} {css : List (List (Nat × Text))}
    (hpassages : List.Forall₂ (fun c cs => IsPassage candidates c (texts cs)) constructs css) :
    (Content (SourceUnit.numberFrom number lines) css.flatten →
      Succeeds candidates (SourceUnit.numberFrom number lines) constructs css) ∧
    ∀ {o done cs}, o.Holds done → o.first + o.lines.length = number →
      o.construct.ends (texts done) = .ok false →
      o.construct.Fills (texts done) (texts cs) →
      Content (SourceUnit.numberFrom number lines) (cs ++ css.flatten) →
      GoesOn candidates o done cs constructs css
        (listFrom candidates (some o) (SourceUnit.numberFrom number lines)) := by
  have hnonempty {c : Construct} {cs : List (Nat × Text)} {done : List Text}
      (h : c.Fills done (texts cs)) : cs ≠ [] := fun hnil => h.ne_nil (texts_eq_nil_iff.2 hnil)
  -- The induction is on the lines, for a passage may have blank ones anywhere between its texts.
  induction lines generalizing number constructs css with
  | nil =>
      constructor
      · intro hcontent
        cases hpassages with
        | nil => exact ⟨[], rfl, rfl, .nil⟩
        | @cons c cs constructs css hpassage _ =>
            generalize hds : (cs :: css).flatten = ds at hcontent
            cases hcontent
            exact absurd (List.append_eq_nil_iff.1 hds).1 (hnonempty hpassage.fills)
      · intro o done cs _ _ _ hfills hcontent
        generalize hds : cs ++ css.flatten = ds at hcontent
        cases hcontent
        exact absurd (List.append_eq_nil_iff.1 hds).1 (hnonempty hfills)
  | cons line lines ih =>
      rw [SourceUnit.numberFrom]
      constructor
      · intro hcontent
        generalize hds : css.flatten = ds at hcontent
        cases hcontent with
        | blank hline hcontent =>
            rw [← hds] at hcontent
            exact ((ih hpassages).1 hcontent).blank hline
        | @line _ _ t _ ds hline hne hcontent =>
            cases hpassages with
            | nil => cases hds
            | @cons c cs constructs css hpassage hpassages =>
                obtain ⟨first, cs, rfl⟩ := List.exists_cons_of_ne_nil (hnonempty hpassage.fills)
                obtain ⟨rfl, rfl⟩ := List.cons.inj hds
                have ho := Open.holds_start c number hline hne
                refine .cons hline hne hpassage ?_
                exact resume_of_fills ho rfl (Open.endsFilled_start c number hline hne)
                  hpassage.fills (fun hnil => (ih hpassages).1 (by rwa [hnil] at hcontent))
                  (fun hopen hfills => (ih hpassages).2 ho rfl hopen hfills hcontent)
      · intro o done cs ho hnumber hopen hfills hcontent
        generalize hds : cs ++ css.flatten = ds at hcontent
        cases hcontent with
        | blank hline hcontent =>
            rw [← hds] at hcontent
            rw [listFrom_next o hline, resume_of_more (ho.isComplete_feed_blank hline hopen),
              ← goesOn_feed o line []]
            rw [← Open.construct_feed o line []] at hopen hfills
            exact (ih hpassages).2 (ho.feed_blank hline)
              (Open.first_add_length_feed hnumber line []) hopen hfills hcontent
        | @line _ _ t _ ds hline hne hcontent =>
            obtain ⟨first, cs, rfl⟩ := List.exists_cons_of_ne_nil (hnonempty hfills)
            obtain ⟨rfl, rfl⟩ := List.cons.inj hds
            have ho' := ho.feed hline hne
            have hnumber' := Open.first_add_length_feed hnumber line t
            rw [hnumber] at ho'
            rw [listFrom_next o hline, ← goesOn_feed o line t]
            refine resume_of_fills ho' (Open.construct_feed o line t)
              (Open.endsFilled_feed o hline hne) hfills
              (fun hnil => (ih hpassages).1 (by rwa [hnil] at hcontent)) fun hopen hfills => ?_
            rw [← Open.construct_feed o line t] at hopen hfills
            exact (ih hpassages).2 ho' hnumber' hopen hfills hcontent

theorem readsAs_of_list {candidates : List Construct} {u : SourceUnit} {items : List Item}
    (h : list u candidates = .ok items) : ReadsAs candidates u.numberedLines items :=
  reads_of_listFrom.1 h

theorem list_of_passages {candidates : List Construct} {u : SourceUnit}
    {constructs : List Construct} {css : List (List (Nat × Text))}
    (hcontent : Content u.numberedLines css.flatten)
    (hpassages : List.Forall₂ (fun c cs => IsPassage candidates c (texts cs)) constructs css) :
    ∃ items, list u candidates = .ok items ∧ items.map construct = constructs ∧
      List.Forall₂ (IsRead candidates) items css :=
  (listFrom_of_passages hpassages).1 hcontent

end Overlay.Item
