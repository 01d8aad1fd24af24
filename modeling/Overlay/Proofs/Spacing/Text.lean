import Overlay.Proofs.Spacing.Units

/-!
Operations on respaced texts. Trimming, cutting and taking off what stands in
front or around gives respaced texts, and a text without blanks outside of its
literals is respaced to itself only.
-/

namespace Overlay.Text

theorem Respaced.refl {t : Text} {as : List Token} (h : Balanced t as) : Respaced t t :=
  ⟨as, as, h, h, .refl as⟩

theorem Respaced.symm {t t' : Text} : Respaced t t' → Respaced t' t := by
  rintro ⟨as, as', h, h', hunits⟩
  exact ⟨as', as, h', h, hunits.symm⟩

theorem Respaced.exists_balanced {t t' : Text} : Respaced t t' → ∃ as, Balanced t' as := by
  rintro ⟨-, as', -, h', -⟩
  exact ⟨as', h'⟩

/-! Views of the characters. -/

theorem RespacedUnits.mem_iff {c : Char} (hc : isBlank c = false ∨ c = '\n')
    {as as' : List Token} (h : RespacedUnits as as') :
    c ∈ Token.flatten as ↔ c ∈ Token.flatten as' := by
  have hgap {g : Text} (hg : IsGap g) : c ∉ g := by
    intro hmem
    rcases hc with hc | rfl
    · exact not_mem_of_allBlank hg.blank hc hmem
    · exact hg.line hmem
  induction h with
  | nil => rfl
  | same a _ ih => simp [ih]
  | gap hg hg' _ ih => simp [ih, hgap hg, hgap hg']
  | group _ hb hb' _ _ ihbody ih =>
      rw [hb.flatten, hb'.flatten] at ihbody
      simp [Token.text, ih, ihbody]

/-- A character that is not blank, or ends a line, stands in both texts. -/
theorem Respaced.mem_iff {c : Char} (hc : isBlank c = false ∨ c = '\n') {t t' : Text} :
    Respaced t t' → (c ∈ t ↔ c ∈ t') := by
  rintro ⟨as, as', h, h', hunits⟩
  rw [← h.flatten, ← h'.flatten]
  exact hunits.mem_iff hc

theorem Respaced.eq_nil {t' : Text} : Respaced [] t' → t' = [] := by
  rintro ⟨as, as', h, h', hunits⟩
  obtain rfl := h.unique .nil
  rw [hunits.of_nil] at h'
  exact eq_nil_of_balanced h'

theorem Respaced.isEmpty_eq {t t' : Text} (h : Respaced t t') : t.isEmpty = t'.isEmpty := by
  rw [Bool.eq_iff_iff, List.isEmpty_iff, List.isEmpty_iff]
  constructor
  · rintro rfl
    exact h.eq_nil
  · rintro rfl
    exact h.symm.eq_nil

theorem Respaced.allBlank_eq {t t' : Text} (h : Respaced t t') : t.allBlank = t'.allBlank := by
  have himp {t t' : Text} (h : Respaced t t') : t'.allBlank = true → t.allBlank = true := by
    intro hblank
    refine allBlank_iff.2 fun c hc => ?_
    by_contra hsolid
    have hmem := (h.mem_iff (.inl (by simpa using hsolid))).1 hc
    exact hsolid (allBlank_iff.1 hblank c hmem)
  rw [Bool.eq_iff_iff]
  exact ⟨himp h.symm, himp h⟩

/-- The first characters are the same, or both are blank. -/
theorem Respaced.head {t t' : Text} : Respaced t t' → t.head? = t'.head? ∨
    ∃ c ∈ t.head?, ∃ c' ∈ t'.head?, isBlank c = true ∧ isBlank c' = true := by
  rintro ⟨as, as', h, h', hunits⟩
  have hgap {g : Text} (hg : IsGap g) (us : List Token) :
      ∃ c ∈ (Token.flatten (g.map .char ++ us)).head?, isBlank c = true := by
    obtain ⟨c, rest, heq, hc⟩ := RespacedUnits.head_of_gap hg us
    exact ⟨c, by simp [heq, Token.text], hc⟩
  rw [← h.flatten, ← h'.flatten]
  cases hunits with
  | nil => exact .inl rfl
  | @same a _ _ hunits =>
      refine .inl ?_
      cases a with
      | char c => rfl
      | literal l =>
          obtain ⟨u, v, -, hu, -⟩ := @Balanced.split _ [.literal l] _ h
          obtain ⟨hne, -⟩ := hu.solid_of_literal
          obtain ⟨c, l, rfl⟩ := List.exists_cons_of_ne_nil hne
          rfl
  | gap hg hg' _ =>
      obtain ⟨c, hc, hblank⟩ := hgap hg _
      obtain ⟨c', hc', hblank'⟩ := hgap hg' _
      exact .inr ⟨c, hc, c', hc', hblank, hblank'⟩
  | group => exact .inl rfl

theorem Respaced.startsSolid_iff {t t' : Text} (h : Respaced t t') :
    StartsSolid t ↔ StartsSolid t' := by
  rcases h.head with heq | ⟨c, hc, c', hc', hblank, hblank'⟩
  · rw [StartsSolid, StartsSolid, heq]
  · constructor
    · intro hsolid
      rw [hsolid c hc] at hblank
      cases hblank
    · intro hsolid
      rw [hsolid c' hc'] at hblank'
      cases hblank'

theorem Respaced.endsWord {t t' : Text} (h : Respaced t t') (hends : EndsWord t) :
    EndsWord t' := by
  rcases h.head with heq | ⟨-, -, c', hc', -, hblank⟩
  · rwa [EndsWord, heq] at hends
  · intro d hd
    obtain rfl := Option.mem_unique hc' hd
    exact isWord_eq_false_of_isBlank hblank

theorem Respaced.head?_eq_some_iff {c : Char} (hc : isBlank c = false) {t t' : Text}
    (h : Respaced t t') : t.head? = some c ↔ t'.head? = some c := by
  rcases h.head with heq | ⟨d, hd, d', hd', hblank, hblank'⟩
  · rw [heq]
  · have hne {e : Char} (he : isBlank e = true) : e ≠ c := by
      rintro rfl
      rw [hc] at he
      cases he
    rw [Option.mem_def.1 hd, Option.mem_def.1 hd']
    simp [hne hblank, hne hblank']

/-! Texts without blanks outside of literals. -/

theorem Respaced.eq_of_isSolid {t t' : Text} (hsolid : IsSolid t) : Respaced t t' → t' = t := by
  rintro ⟨as, as', h, h', hunits⟩
  obtain rfl := h.unique (balanced_of_plain fun c hc => (hsolid c hc).1)
  rw [← List.append_nil (t.map Token.char)] at hunits
  obtain ⟨bs, rfl, hbs⟩ := hunits.of_chars_append fun c hc => (hsolid c hc).2
  obtain rfl := hbs.of_nil
  rw [← h'.flatten, List.append_nil, flatten_chars]

theorem Respaced.eq_of_isLiteral {t t' : Text} (hl : IsLiteral t) : Respaced t t' → t' = t := by
  rintro ⟨as, as', h, h', hunits⟩
  obtain rfl := h.unique (.of_isLiteral hl)
  obtain ⟨l', rfl, rfl | ⟨o, c, body, body', cs, cs', ho, rfl, -⟩⟩ := hunits.of_literal
  · exact h'.eq_literal.1
  · obtain ⟨content, -, heq⟩ := hl
    obtain rfl : o = '"' := (List.cons.inj heq).1
    simp [closer?] at ho

/-- A view that goes from a text to those respaced to it finds nothing in one
of them when it finds nothing in the other. -/
theorem Respaced.eq_none {α : Type} {view : Text → Option α}
    (hview : ∀ {t t' a}, view t = some a → Respaced t t' → ∃ a', view t' = some a')
    {t t' : Text} (hnone : view t = none) (h : Respaced t t') : view t' = none := by
  cases ha : view t' with
  | none => rfl
  | some a =>
      obtain ⟨a', ha'⟩ := hview ha h.symm
      rw [hnone] at ha'
      cases ha'

/-! Trimming. -/

theorem Respaced.dropBlank {t t' : Text} : Respaced t t' → Respaced t.dropBlank t'.dropBlank := by
  rintro ⟨as, as', h, h', hunits⟩
  exact ⟨_, _, h.dropBlank, h'.dropBlank, hunits.dropBlankUnits⟩

theorem Balanced.dropBlankEnd {t : Text} {as : List Token} (h : Balanced t as) :
    Balanced t.dropBlankEnd (dropBlankUnits as.reverse).reverse := by
  obtain ⟨b, hb, ht⟩ := exists_dropBlankEnd t
  rw [ht] at h
  obtain ⟨bs, rfl, hbs⟩ := h.of_append_blank hb
  rw [List.reverse_append, ← List.map_reverse,
    dropBlankUnits_blank_append (by rwa [allBlank_reverse])]
  have hsolid := endsSolid_dropBlankEnd t
  have hkeep : dropBlankUnits bs.reverse = bs.reverse := by
    rcases List.eq_nil_or_concat bs with rfl | ⟨bs, a, rfl⟩
    · rfl
    · rw [List.concat_eq_append] at hbs ⊢
      cases a with
      | literal l => simp [dropBlankUnits, Token.isBlank]
      | char c =>
          have hflat := hbs.flatten
          rw [← hflat, flatten_append, flatten_cons, flatten_nil, List.append_nil,
            Token.text] at hsolid
          have hc := endsSolid_concat.1 hsolid
          simp [dropBlankUnits, Token.isBlank, hc]
  rwa [hkeep, List.reverse_reverse]

theorem Respaced.dropBlankEnd {t t' : Text} :
    Respaced t t' → Respaced t.dropBlankEnd t'.dropBlankEnd := by
  rintro ⟨as, as', h, h', hunits⟩
  exact ⟨_, _, h.dropBlankEnd, h'.dropBlankEnd, hunits.reverse.dropBlankUnits.reverse⟩

theorem Respaced.trim {t t' : Text} (h : Respaced t t') : Respaced t.trim t'.trim :=
  h.dropBlank.dropBlankEnd

theorem Respaced.restOfLine? {t t' rest : Text} (hrest : t.restOfLine? = some rest)
    (h : Respaced t t') : ∃ rest', t'.restOfLine? = some rest' ∧ Respaced rest rest' := by
  have hdrop := h.dropBlank
  have hline := hdrop.mem_iff (.inr rfl)
  simp only [Text.restOfLine?] at hrest ⊢
  split at hrest
  · cases hrest
  · next hnot =>
    cases hrest
    rw [hdrop.isEmpty_eq, List.contains_iff_mem, hline, ← List.contains_iff_mem] at hnot
    exact ⟨_, if_neg hnot, hdrop⟩

theorem Respaced.afterBlanks? {t t' rest : Text} (hrest : t.afterBlanks? = some rest)
    (h : Respaced t t') : ∃ rest', t'.afterBlanks? = some rest' ∧ Respaced rest rest' := by
  have hsolid := h.startsSolid_iff
  have hdrop := h.dropBlank
  have hempty := h.isEmpty_eq
  cases t with
  | nil => cases hrest
  | cons c t =>
      cases t' with
      | nil => cases hempty
      | cons c' t' =>
          simp only [Text.afterBlanks?, startsSolid_cons] at hrest hsolid ⊢
          split at hrest
          · next hc =>
            cases hrest
            rw [hc] at hsolid
            have hc' : isBlank c' = true := by simpa using hsolid
            exact ⟨_, if_pos hc', hdrop⟩
          · cases hrest

end Overlay.Text
