import Overlay.Proofs.Condition.Reading
import Overlay.Proofs.Spacing.Call

/-!
Conditions in respaced texts. A respaced text is read in the same form, as the
same condition.
-/

namespace Overlay

open Text

theorem Sign.isSolid_label (s : Sign) : IsSolid s.label := by cases s <;> decide

theorem Sign.operand?_of_respaced {s : Sign} {t t' operand : Text}
    (hoperand : s.operand? t = some operand) (h : Respaced t t') :
    ∃ operand', s.operand? t' = some operand' ∧ Respaced operand operand' := by
  simp only [operand?, Option.bind_eq_some_iff] at hoperand ⊢
  obtain ⟨after, hafter, hrest⟩ := hoperand
  obtain ⟨after', hafter', hrespaced⟩ := h.dropPrefix? s.isSolid_label hafter
  obtain ⟨operand', hrest', hall⟩ := hrespaced.restOfLine? hrest
  exact ⟨operand', ⟨after', hafter', hrest'⟩, hall⟩

theorem Sign.leading?_of_respaced {s : Sign} {t t' operand : Text}
    (hsign : leading? t = some (s, operand)) (h : Respaced t t') :
    ∃ operand', leading? t' = some (s, operand') ∧ Respaced operand operand' := by
  unfold leading? at hsign ⊢
  generalize all = signs at hsign ⊢
  induction signs with
  | nil => cases hsign
  | cons first signs ih =>
      rw [List.findSome?_cons] at hsign ⊢
      cases hfirst : first.operand? t with
      | some rest =>
          rw [hfirst] at hsign
          cases hsign
          obtain ⟨rest', hfirst', hrespaced⟩ := operand?_of_respaced hfirst h
          exact ⟨rest', by rw [hfirst']; rfl, hrespaced⟩
      | none =>
          have hfirst' : first.operand? t' = none := by
            refine h.eq_none (fun hrest h => ?_) hfirst
            obtain ⟨rest', hrest', -⟩ := operand?_of_respaced hrest h
            exact ⟨rest', hrest'⟩
          rw [hfirst] at hsign
          rw [hfirst']
          exact ih hsign

namespace Leaf

theorem ofEventState?_of_respaced {t t' : Text} {l : Leaf} (hl : ofEventState? t = some l)
    (h : Respaced t t') : ofEventState? t' = some l := by
  have hsolid : IsSolid t := by
    simp only [ofEventState?, Option.bind_eq_bind, Option.bind_eq_some_iff, Prod.exists] at hl
    obtain ⟨name, rest, hname, state, hstate, hl⟩ := hl
    obtain ⟨hisName, rfl, -⟩ := leadingName?_eq_some_iff.1 hname
    obtain rfl := dropPrefix?_eq_some_iff.1 hstate
    have hword : IsSolid ('.' :: state) := by
      split at hl
      · next hword => rcases hword with rfl | rfl <;> decide
      · cases hl
    intro c hc
    rcases List.mem_append.1 hc with hc | hc
    · exact isSolid_of_isName hisName c hc
    · exact hword c hc
  rwa [h.eq_of_isSolid hsolid]

theorem comparison?_of_respaced {t t' name operand : Text} {sign : Sign}
    (hcomparison : comparison? t = some (name, sign, operand)) (h : Respaced t t') :
    ∃ operand', comparison? t' = some (name, sign, operand') ∧ Respaced operand operand' := by
  simp only [comparison?, Option.bind_eq_bind, Option.bind_eq_some_iff, Prod.exists,
    Option.some.injEq, Prod.mk.injEq] at hcomparison ⊢
  obtain ⟨_, rest, hname, _, _, hsign, rfl, rfl, rfl⟩ := hcomparison
  obtain ⟨rest', hname', hrest⟩ := h.leadingName? hname
  obtain ⟨operand', hsign', hoperand⟩ := Sign.leading?_of_respaced hsign hrest.dropBlank
  exact ⟨operand', ⟨_, rest', hname', _, operand', hsign', rfl, rfl, rfl⟩, hoperand⟩

theorem comparison?_none_of_respaced {t t' : Text} (hnone : comparison? t = none)
    (h : Respaced t t') : comparison? t' = none := by
  refine h.eq_none (fun {t t' a} ha h => ?_) hnone
  obtain ⟨name, sign, operand⟩ := a
  obtain ⟨operand', ha', -⟩ := comparison?_of_respaced ha h
  exact ⟨_, ha'⟩

theorem ofComparison_of_respaced {t t' : Text} {l : Leaf} (hl : ofComparison t = .ok l)
    (h : Respaced t t') : ofComparison t' = .ok l := by
  obtain ⟨name, sign, operand, threshold, hcomparison, hthreshold, rfl⟩ :=
    ofComparison_eq_ok_iff.1 hl
  obtain ⟨operand', hcomparison', hoperand⟩ := comparison?_of_respaced hcomparison h
  obtain rfl := Literal.eq_of_respaced hthreshold hoperand
  exact ofComparison_eq_ok_iff.2 ⟨name, sign, _, threshold, hcomparison', hthreshold, rfl⟩

theorem ofLike_of_respaced {t t' : Text} {l : Leaf} (hl : ofLike t = .ok l)
    (h : Respaced t t') : ofLike t' = .ok l :=
  Method.call_bind_of_respaced (by decide) hl h

theorem ofRange_of_respaced {t t' : Text} {l : Leaf} (hl : ofRange t = .ok l)
    (h : Respaced t t') : ofRange t' = .ok l :=
  Method.call_bind_of_respaced (by decide) hl h

theorem negated?_of_respaced {t t' inner : Text} (hinner : negated? t = some inner)
    (h : Respaced t t') : ∃ inner', negated? t' = some inner' ∧ Respaced inner inner' := by
  simp only [negated?, Option.bind_eq_some_iff] at hinner ⊢
  obtain ⟨blanks, ⟨rest, hrest, hblanks⟩, hinner⟩ := hinner
  obtain ⟨rest', hrest', hrespaced⟩ := h.dropPrefix? (by decide) hrest
  obtain ⟨blanks', hblanks', hafter⟩ := hrespaced.afterBlanks? hblanks
  obtain ⟨inner', hinner', hall⟩ := hafter.restOfLine? hinner
  exact ⟨inner', ⟨blanks', ⟨rest', hrest', hblanks'⟩, hinner'⟩, hall⟩

/-- The forms that were tried in vain fail again on a respaced text. -/
theorem ofText_of_respaced {t t' : Text} {l : Leaf} (hl : ofText t = .ok l)
    (h : Respaced t t') : ofText t' = .ok l := by
  have hstate {t t' : Text} (hnone : ofEventState? t = none) (h : Respaced t t') :
      ofEventState? t' = none :=
    h.eq_none (fun hl h => ⟨_, ofEventState?_of_respaced hl h⟩) hnone
  refine ofText_induct (fun t l => ∀ t', Respaced t t' → ofText t' = .ok l)
    ?state ?comparison ?like ?range ?negation hl t' h
  case state =>
    intro t l hl t' h
    rw [ofText, ofEventState?_of_respaced hl h]
  case comparison =>
    intro t l hnone hl t' h
    have hl' := ofComparison_of_respaced hl h
    obtain ⟨name, sign, operand, threshold, hcomparison, -⟩ := ofComparison_eq_ok_iff.1 hl'
    rw [ofText, hstate hnone h]
    simp [hcomparison, hl']
  case like =>
    intro t l hnone hcomparison hlike hl t' h
    rw [ofText, hstate hnone h]
    simp [comparison?_none_of_respaced hcomparison h,
      ← Method.isCalledBy_eq_of_respaced .like h, hlike, ofLike_of_respaced hl h]
  case range =>
    intro t l hnone hcomparison hlike hrange hl t' h
    rw [ofText, hstate hnone h]
    simp [comparison?_none_of_respaced hcomparison h,
      ← Method.isCalledBy_eq_of_respaced .like h, hlike,
      ← Method.isCalledBy_eq_of_respaced .range h, hrange, ofRange_of_respaced hl h]
  case negation =>
    intro t inner l hnone hcomparison hlike hrange hinner _ ih t' h
    obtain ⟨inner', hinner', hrespaced⟩ := negated?_of_respaced hinner h
    rw [ofText, hstate hnone h]
    simp only [comparison?_none_of_respaced hcomparison h,
      ← Method.isCalledBy_eq_of_respaced .like h, hlike,
      ← Method.isCalledBy_eq_of_respaced .range h, hrange, Option.isSome_none, Bool.false_eq_true,
      if_false]
    split
    · next other hother =>
      rw [hinner'] at hother
      cases hother
      rw [ih inner' hrespaced]
      rfl
    · next hother =>
      rw [hinner'] at hother
      cases hother

end Leaf

namespace Condition

theorem isWhole_of_respaced {d : Char} {ds t t' : Text} (hd : IsSolid (d :: ds))
    (hwhole : t.IsWhole (d :: ds)) (h : Respaced t t') : t'.IsWhole (d :: ds) := by
  obtain ⟨parts, hparts, hlt⟩ := hwhole
  obtain ⟨parts', hparts', hall⟩ := h.split hd hparts
  exact ⟨parts', hparts', hall.length_eq ▸ hlt⟩

theorem mapM_of_respaced {parts parts' : List Text} {cs : List Condition}
    (hcs : List.Forall₂ (fun p c => ofText p = .ok c ∧ ∀ p', Respaced p p' → ofText p' = .ok c)
      parts cs)
    (h : List.Forall₂ Respaced parts parts') : parts'.mapM ofText = .ok cs := by
  rw [Except.mapM_eq_ok_iff]
  induction h generalizing cs with
  | nil =>
      cases hcs
      exact .nil
  | cons hfirst _ ih =>
      cases hcs with
      | cons hc hcs => exact .cons (hc.2 _ hfirst) (ih hcs)

theorem ofText_of_respaced {t t' : Text} {c : Condition} (hc : ofText t = .ok c)
    (h : Respaced t t') : ofText t' = .ok c := by
  refine ofText_induct (fun t c => ∀ t', Respaced t t' → ofText t' = .ok c)
    ?node ?parens ?leaf hc t' h
  case node =>
    intro t k parts cs hor hsplit hcut hcs t' h
    have hrespaced : ∃ parts', t'.split k.sign none = .ok parts' ∧
        List.Forall₂ Respaced parts parts' := by
      cases k <;> exact h.split (by decide) hsplit
    obtain ⟨parts', hsplit', hparts⟩ := hrespaced
    exact ofText_of_node (fun hk => isWhole_of_respaced (by decide) (hor hk) h) hsplit'
      (hparts.length_eq ▸ hcut) (mapM_of_respaced hcs hparts)
  case parens =>
    intro t inner c hor hand hinner _ ih t' h
    obtain ⟨inner', hinner', hrespaced⟩ := h.stripParens_some hinner
    rw [ofText_of_parens (isWhole_of_respaced (by decide) hor h)
      (isWhole_of_respaced (by decide) hand h) hinner']
    exact ih inner' hrespaced
  case leaf =>
    intro t l hor hand hparens hl t' h
    rw [ofText_of_leaf (isWhole_of_respaced (by decide) hor h)
      (isWhole_of_respaced (by decide) hand h) (h.stripParens_none hparens),
      Leaf.ofText_of_respaced hl h]
    rfl

end Condition

end Overlay
