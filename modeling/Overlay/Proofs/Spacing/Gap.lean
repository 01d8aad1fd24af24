import Overlay.Proofs.Spacing.Parts
import Overlay.Proofs.Text.Depth

/-!
Gaps in a text. Other blanks in a gap that stands outside of literals give a
respaced text, whatever brackets are open there, and they do not change how many
brackets a text leaves open.
-/

namespace Overlay.Text

theorem isGap_space : IsGap [' '] := ⟨by decide, by decide, by decide⟩

theorem IsGap.exists_head {g : Text} (h : IsGap g) :
    ∃ c rest, g = c :: rest ∧ isBlank c = true := by
  obtain ⟨c, rest, rfl⟩ := List.exists_cons_of_ne_nil h.nonempty
  exact ⟨c, rest, rfl, (allBlank_cons.1 h.blank).1⟩

/-! Gaps in a balanced text. -/

theorem respaced_front {g g' : Text} (hg : IsGap g) (hg' : IsGap g') {t : Text} {as : List Token}
    (h : Balanced (g ++ t) as) : Respaced (g ++ t) (g' ++ t) := by
  obtain ⟨bs, rfl, hbs⟩ := h.of_blank_append hg.blank
  exact ⟨_, _, h, hbs.plain_append (forall_plain_of_allBlank hg'.blank),
    .gap hg hg' (.refl bs)⟩

theorem head?_append_gap {s g g' t : Text} (hg' : IsGap g') {c : Char} (hc : isBlank c = false)
    (h : (s ++ (g ++ t)).head? ≠ some c) : (s ++ (g' ++ t)).head? ≠ some c := by
  cases s with
  | nil =>
      obtain ⟨d, rest, rfl, hd⟩ := hg'.exists_head
      intro heq
      obtain rfl : d = c := by simpa using heq
      rw [hc] at hd
      cases hd
  | cons d s => simpa using h

/-- Two ways to cut a text, after a part that goes on with a gap and before a
character that is not blank. -/
theorem append_gap_eq_append_cons {u s g t v : Text} {c : Char} (hg : IsGap g)
    (hc : isBlank c = false) (h : u ++ c :: v = s ++ (g ++ t)) :
    (∃ s', s = u ++ c :: s' ∧ v = s' ++ (g ++ t)) ∨
      ∃ t', u = s ++ (g ++ t') ∧ t = t' ++ c :: v := by
  rcases List.append_eq_append_iff.1 h with ⟨m, rfl, hm⟩ | ⟨m, rfl, hm⟩
  · cases m with
    | nil =>
        obtain ⟨d, rest, rfl, hd⟩ := hg.exists_head
        obtain rfl : c = d := by simpa using congrArg List.head? hm
        rw [hc] at hd
        cases hd
    | cons d m =>
        obtain ⟨rfl, rfl⟩ := List.cons.inj hm
        exact .inl ⟨m, rfl, rfl⟩
  · rcases List.append_eq_append_iff.1 hm with ⟨k, rfl, hk⟩ | ⟨k, rfl, hk⟩
    · exact .inr ⟨k, rfl, hk⟩
    · cases k with
      | nil =>
          rw [List.nil_append] at hk
          exact .inr ⟨[], by simp, hk.symm⟩
      | cons d k =>
          obtain ⟨rfl, -⟩ := List.cons.inj hk
          have hblank := allBlank_iff.1 hg.blank c (by simp)
          rw [hc] at hblank
          cases hblank

/-- What goes on with a gap begins with the character at the front, if that is neither
blank nor a quote. -/
theorem Quoted.exists_tail {s g t v : Text} {c : Char} {ss : List Token} (hs : Quoted s ss)
    (hg : IsGap g) (hc : isBlank c = false) (hq : c ≠ '"') (h : s ++ (g ++ t) = c :: v) :
    ∃ s' ss', s = c :: s' ∧ Quoted s' ss' ∧ v = s' ++ (g ++ t) := by
  cases hs with
  | nil =>
      obtain ⟨d, rest, rfl, hd⟩ := hg.exists_head
      obtain ⟨rfl, -⟩ := List.cons.inj h
      rw [hc] at hd
      cases hd
  | literal hl _ =>
      obtain ⟨rest, rfl⟩ := head_of_isLiteral hl
      exact absurd (List.cons.inj h).1.symm hq
  | @char _ s ss _ _ hs =>
      obtain ⟨rfl, hv⟩ := List.cons.inj h
      exact ⟨s, ss, rfl, hs, hv.symm⟩

/-- Other blanks in a gap outside of literals. -/
theorem Balanced.respaced {s g g' t : Text} {as ss : List Token} (hg : IsGap g) (hg' : IsGap g')
    (hs : Quoted s ss) (h : Balanced (s ++ (g ++ t)) as) :
    Respaced (s ++ (g ++ t)) (s ++ (g' ++ t)) := by
  generalize hu : s ++ (g ++ t) = u at h
  induction h generalizing s t ss with
  | nil =>
      obtain ⟨-, hnil⟩ := List.append_eq_nil_iff.1 hu
      exact absurd (List.append_eq_nil_iff.1 hnil).1 hg.nonempty
  | @char c u as hq ho hc hesc hrest ih =>
      cases hs with
      | nil =>
          have hall := Balanced.char hq ho hc hesc hrest
          rw [List.nil_append] at hu ⊢
          rw [← hu] at hall ⊢
          exact respaced_front hg hg' hall
      | @char _ s ss _ _ hs =>
          obtain ⟨rfl, rfl⟩ := List.cons.inj hu
          obtain ⟨bs, bs', hbs, hbs', hunits⟩ := ih hs rfl
          exact ⟨_, _, .char hq ho hc hesc hbs, .char hq ho hc
            (fun heq => head?_append_gap hg' (by decide) (hesc heq)) hbs', .same _ hunits⟩
      | literal hl _ =>
          obtain ⟨rest, rfl⟩ := head_of_isLiteral hl
          exact absurd (List.cons.inj hu).1.symm hq
  | @literal l u as hl hrest ih =>
      obtain ⟨body, rfl⟩ := head_of_isLiteral hl
      cases hs with
      | nil =>
          obtain ⟨c, rest, rfl, hc⟩ := hg.exists_head
          obtain ⟨rfl, -⟩ := List.cons.inj hu
          exact absurd hc (by decide)
      | @char c _ _ hc _ _ => exact absurd (List.cons.inj hu).1 hc
      | @literal l' s ss hl' hs =>
          obtain ⟨ts, hts, -⟩ := balanced_iff.1 hrest
          rw [List.append_assoc] at hu ⊢
          have hquoted := Quoted.literal hl hts
          rw [← hu] at hquoted
          -- The gap lies outside of literals, so what stands before it begins with the same one.
          obtain ⟨us, hsame, -⟩ := hquoted.of_literal_append hl'
          obtain ⟨hsame, -⟩ := List.cons.inj hsame
          cases hsame
          obtain rfl := List.append_cancel_left hu
          obtain ⟨bs, bs', hbs, hbs', hunits⟩ := ih hs rfl
          exact ⟨_, _, .literal hl hbs, .literal hl hbs', .same _ hunits⟩
  | @group o c body u bs as ho hbody hrest ihbody ih =>
      obtain ⟨hopen, hclose⟩ := isBlank_of_closer? ho
      obtain ⟨hquote, hquote'⟩ := ne_quote_of_closer? ho
      obtain ⟨s, ss, rfl, hs, hinner⟩ := hs.exists_tail hg hopen hquote hu
      rcases append_gap_eq_append_cons hg hclose hinner with ⟨s', rfl, rfl⟩ | ⟨t', rfl, rfl⟩
      · -- The gap comes after the group, whose end is a token of its own.
        obtain ⟨ts, hts, -⟩ := balanced_iff.1 hbody
        obtain ⟨us, -, hus⟩ := hts.of_append hs
        obtain ⟨vs, -, hs'⟩ := hus.of_cons hquote'
        obtain ⟨ds, ds', hds, hds', hunits⟩ := ih hs' rfl
        refine ⟨_, _, .group ho hbody hds, ?_, .same _ hunits⟩
        simpa using Balanced.group ho hbody hds'
      · obtain ⟨ds, ds', hds, hds', hunits⟩ := ihbody hs rfl
        refine ⟨_, _, .group ho hds hrest, ?_, .group ho hds hds' hunits (.refl as)⟩
        simpa using Balanced.group ho hds' hrest

/-! Gaps in any text. -/

theorem Quoted.append_gap {s g t : Text} {ss ts : List Token} (hg : IsGap g) (hs : Quoted s ss)
    (ht : Quoted t ts) : Quoted (s ++ (g ++ t)) (ss ++ (g.map .char ++ ts)) := by
  have hplain := forall_plain_of_allBlank hg.blank
  have hback : (g ++ t).head? ≠ some '"' := by
    obtain ⟨c, rest, rfl, hc⟩ := hg.exists_head
    intro heq
    obtain rfl : c = '"' := by simpa using heq
    exact absurd hc (by decide)
  refine hs.append_of_head ((quoted_of_plain hplain).append ht fun hlast => ?_) hback
  have hmem := List.mem_of_getLast? hlast
  exact absurd hmem (not_mem_of_allBlank hg.blank (by decide))

/-- Other blanks in a gap leave as many brackets open. -/
theorem bracketDepth_gap {s g g' t : Text} {ss : List Token} (hg : IsGap g) (hg' : IsGap g')
    (hs : Quoted s ss) {depth : Nat} (h : bracketDepth (s ++ (g ++ t)) = .ok depth) :
    bracketDepth (s ++ (g' ++ t)) = .ok depth := by
  obtain ⟨ts, es, hts, hes, hdepth⟩ := bracketDepth_eq_ok_iff.1 h
  obtain ⟨us, rfl, hus⟩ := hs.of_append hts
  have hplain {g : Text} (hg : IsGap g) := forall_plain_of_allBlank hg.blank
  obtain ⟨vs, rfl, hvs⟩ := (quoted_of_plain (hplain hg)).of_append hus
  refine bracketDepth_eq_ok_iff.2 ⟨_, es, hs.append_gap hg' hvs, ?_, hdepth⟩
  simpa [expectedAfter_append, expectedAfter_plain (hplain hg),
    expectedAfter_plain (hplain hg')] using hes

end Overlay.Text
