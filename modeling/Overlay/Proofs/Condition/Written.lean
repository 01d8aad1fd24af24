import Overlay.Proofs.Condition.Shape

/-!
Texts of comparisons and negations. A comparison is read exactly from a name, a sign and
a literal with any blanks between them: a literal does not begin with an equals sign, so
no sign is taken for a longer one. The word `not` and blanks before a leaf negate it.
-/

namespace Overlay

open Text

/-- The rest of a line is what comes after its blanks. -/
theorem Text.restOfLine?_eq_some_iff {t rest : Text} :
    t.restOfLine? = some rest ↔ rest ≠ [] ∧ StartsSolid rest ∧ '\n' ∉ rest ∧
      ∃ b, b.allBlank = true ∧ t = b ++ rest := by
  constructor
  · intro h
    have hblanks := Leaf.exists_of_restOfLine? h
    simp only [restOfLine?] at h
    split at h
    · cases h
    · next hline =>
      cases h
      obtain ⟨hne, hfeed⟩ := not_or.1 hline
      exact ⟨by simpa using hne, startsSolid_dropBlank t, by simpa using hfeed, hblanks⟩
  · rintro ⟨hne, hstart, hfeed, b, hb, rfl⟩
    have hdrop : dropBlank (b ++ rest) = rest := by
      rw [dropBlank_append hb, dropBlank_of_startsSolid hstart]
    simp [restOfLine?, hdrop, hne, hfeed]

theorem Text.afterBlanks?_eq_some_iff {t rest : Text} :
    t.afterBlanks? = some rest ↔ StartsSolid rest ∧
      ∃ b : Text, b ≠ [] ∧ b.allBlank = true ∧ t = b ++ rest := by
  constructor
  · intro h
    unfold afterBlanks? at h
    split at h
    · next c t =>
      split at h
      · next hc =>
        cases h
        obtain ⟨b, hb, heq⟩ := exists_dropBlank (c :: t)
        refine ⟨startsSolid_dropBlank _, b, ?_, hb, heq⟩
        rintro rfl
        have hstart := startsSolid_dropBlank (c :: t)
        rw [List.nil_append] at heq
        rw [← heq, startsSolid_cons, hc] at hstart
        cases hstart
      · cases h
    · cases h
  · rintro ⟨hstart, b, hne, hb, rfl⟩
    obtain ⟨c, b, rfl⟩ := List.exists_cons_of_ne_nil hne
    have hdrop := dropBlank_append hb rest
    rw [dropBlank_of_startsSolid hstart, List.cons_append] at hdrop
    simp [afterBlanks?, (allBlank_cons.1 hb).1, hdrop]

/-- What a literal begins with. -/
theorem Literal.exists_cons_of_ofText {t : Text} {l : Literal} (h : ofText t = .ok l) :
    ∃ c rest, t = c :: rest ∧ isBlank c = false ∧ c ≠ '=' := by
  rcases written_of_ofText h with ⟨hne, hnum⟩ | ⟨body, -, rfl⟩
  · obtain ⟨c, rest, rfl⟩ := List.exists_cons_of_ne_nil hne
    have hc := hnum c List.mem_cons_self
    refine ⟨c, rest, rfl, isBlank_of_isNumeric hc, ?_⟩
    rintro rfl
    exact absurd hc (by decide)
  · exact ⟨'"', body ++ ['"'], rfl, by decide, by decide⟩

namespace Sign

theorem exists_of_leading? {t operand : Text} {s : Sign} (h : leading? t = some (s, operand)) :
    ∃ rest, t = s.label ++ rest ∧ rest.restOfLine? = some operand := by
  obtain ⟨s', -, hs⟩ := List.exists_of_findSome?_eq_some h
  obtain ⟨_, hoperand, heq⟩ := Option.map_eq_some_iff.1 hs
  cases heq
  obtain ⟨rest, hrest, hline⟩ := Option.bind_eq_some_iff.1 hoperand
  exact ⟨rest, dropPrefix?_eq_some_iff.1 hrest, hline⟩

/-- A sign is found unless an equals sign after it makes it longer. -/
theorem leading?_label (s : Sign) {rest operand : Text} (hrest : rest.restOfLine? = some operand)
    (hequals : rest.head? ≠ some '=') : leading? (s.label ++ rest) = some (s, operand) := by
  cases rest with
  | nil => cases hrest
  | cons c rest =>
      have hc : c ≠ '=' := by simpa using hequals
      cases s <;> simp [leading?, all, operand?, label, token, dropPrefix?, hrest, Ne.symm hc]

/-- A text that begins with a word character begins with no sign. -/
theorem leading?_eq_none {c : Char} (hc : isWord c = true) (rest : Text) :
    leading? (c :: rest) = none := by
  have hless : '<' ≠ c := (ne_of_isWord hc (by decide)).symm
  have hmore : '>' ≠ c := (ne_of_isWord hc (by decide)).symm
  have hequals : '=' ≠ c := (ne_of_isWord hc (by decide)).symm
  have hnot : '!' ≠ c := (ne_of_isWord hc (by decide)).symm
  simp [leading?, all, operand?, label, token, dropPrefix?, hless, hmore, hequals, hnot]

theorem startsSolid_label (s : Sign) (rest : Text) : StartsSolid (s.label ++ rest) := by
  cases s <;> exact startsSolid_cons.2 (by decide)

end Sign

namespace Leaf

/-- Whether a text is a name, a sign and an operand, with any blanks between them. -/
def IsComparison (name : Text) (sign : Sign) (operand t : Text) : Prop :=
  name.isName = true ∧ ∃ b b', b.allBlank = true ∧ b'.allBlank = true ∧
    t = name ++ b ++ sign.label ++ b' ++ operand

theorem endsWord_blanks_append {b t : Text} (hb : b.allBlank = true) (ht : EndsWord t) :
    EndsWord (b ++ t) := by
  cases b with
  | nil => exact ht
  | cons c b => exact endsWord_cons.2 (isWord_eq_false_of_isBlank (allBlank_cons.1 hb).1)

theorem leadingName?_of_isComparison {name operand b b' : Text} {sign : Sign}
    (hname : name.isName = true) (hb : b.allBlank = true) :
    leadingName? (name ++ b ++ sign.label ++ b' ++ operand) =
      some (name, b ++ (sign.label ++ (b' ++ operand))) := by
  refine leadingName?_eq_some_iff.2 ⟨hname, by simp, endsWord_blanks_append hb ?_⟩
  cases sign <;> exact endsWord_cons.2 (by decide)

theorem comparison?_of_isComparison {name operand t : Text} {sign : Sign}
    (h : IsComparison name sign operand t) (hne : operand ≠ []) (hstart : StartsSolid operand)
    (hline : '\n' ∉ operand) (hequals : operand.head? ≠ some '=') :
    comparison? t = some (name, sign, operand) := by
  obtain ⟨hname, b, b', hb, hb', rfl⟩ := h
  have hrest : restOfLine? (b' ++ operand) = some operand :=
    restOfLine?_eq_some_iff.2 ⟨hne, hstart, hline, b', hb', rfl⟩
  have hhead : (b' ++ operand).head? ≠ some '=' := by
    cases b' with
    | nil => exact hequals
    | cons c b' =>
        rintro heq
        cases heq
        exact absurd (allBlank_cons.1 hb').1 (by decide)
  simp only [comparison?, leadingName?_of_isComparison hname hb, Option.bind_eq_bind,
    Option.bind_some, dropBlank_append hb, dropBlank_of_startsSolid (sign.startsSolid_label _),
    sign.leading?_label hrest hhead]

theorem isComparison_of_comparison? {name operand t : Text} {sign : Sign}
    (h : comparison? t = some (name, sign, operand)) :
    IsComparison name sign operand t ∧ '\n' ∉ operand := by
  simp only [comparison?, Option.bind_eq_bind, Option.bind_eq_some_iff, Prod.exists,
    Option.some.injEq, Prod.mk.injEq] at h
  obtain ⟨_, rest, hname, _, _, hsign, rfl, rfl, rfl⟩ := h
  obtain ⟨hisName, rfl, -⟩ := leadingName?_eq_some_iff.1 hname
  obtain ⟨after, hafter, hrest⟩ := Sign.exists_of_leading? hsign
  obtain ⟨-, -, hline, b', hb', rfl⟩ := restOfLine?_eq_some_iff.1 hrest
  obtain ⟨b, hb, hblank⟩ := exists_dropBlank rest
  refine ⟨⟨hisName, b, b', hb, hb', ?_⟩, hline⟩
  rw [hblank, hafter]
  simp

/-- A comparison is read exactly from a name, a sign and a literal of one line. -/
theorem ofComparison_eq_ok_iff_isComparison {t : Text} {l : Leaf} :
    ofComparison t = .ok l ↔ ∃ name sign operand threshold,
      IsComparison name sign operand t ∧ '\n' ∉ operand ∧ Literal.ofText operand = .ok threshold ∧
        l = ⟨name, .compare sign threshold⟩ := by
  rw [ofComparison_eq_ok_iff]
  constructor
  · rintro ⟨name, sign, operand, threshold, hcomparison, hthreshold, rfl⟩
    obtain ⟨hwritten, hline⟩ := isComparison_of_comparison? hcomparison
    exact ⟨name, sign, operand, threshold, hwritten, hline, hthreshold, rfl⟩
  · rintro ⟨name, sign, operand, threshold, hwritten, hline, hthreshold, rfl⟩
    obtain ⟨c, rest, rfl, hc, hequals⟩ := Literal.exists_cons_of_ofText hthreshold
    have hcomparison := comparison?_of_isComparison hwritten (List.cons_ne_nil c rest)
      (startsSolid_cons.2 hc) hline (by simpa using hequals)
    exact ⟨name, sign, c :: rest, threshold, hcomparison, hthreshold, rfl⟩

/-- A text with a sign after the name is not the state of an event. -/
theorem ofEventState?_of_isComparison {name operand t : Text} {sign : Sign}
    (h : IsComparison name sign operand t) : ofEventState? t = none := by
  obtain ⟨hname, b, b', hb, -, rfl⟩ := h
  have hdot : dropPrefix? ['.'] (b ++ (sign.label ++ (b' ++ operand))) = none := by
    cases b with
    | nil => cases sign <;> simp [Sign.label, Sign.token, dropPrefix?]
    | cons c b =>
        have hc : '.' ≠ c := by
          rintro rfl
          exact absurd (allBlank_cons.1 hb).1 (by decide)
        simp [dropPrefix?, hc]
  simp only [ofEventState?, leadingName?_of_isComparison hname hb, Option.bind_eq_bind,
    Option.bind_some, hdot, Option.bind_none]

/-- The leaf of a comparison. -/
theorem ofText_of_isComparison {name operand t : Text} {sign : Sign} {threshold : Literal}
    (h : IsComparison name sign operand t) (hline : '\n' ∉ operand)
    (hthreshold : Literal.ofText operand = .ok threshold) :
    ofText t = .ok ⟨name, .compare sign threshold⟩ := by
  have hread := ofComparison_eq_ok_iff_isComparison.2 ⟨_, _, _, _, h, hline, hthreshold, rfl⟩
  obtain ⟨_, _, _, _, hcomparison, -, -⟩ := ofComparison_eq_ok_iff.1 hread
  unfold ofText
  simp [ofEventState?_of_isComparison h, hcomparison, hread]

/-! Negations. -/

theorem negated?_eq_some_iff {t inner : Text} :
    negated? t = some inner ↔ inner ≠ [] ∧ StartsSolid inner ∧ '\n' ∉ inner ∧
      ∃ b : Text, b ≠ [] ∧ b.allBlank = true ∧ t = "not".toList ++ b ++ inner := by
  simp only [negated?, Option.bind_eq_some_iff, dropPrefix?_eq_some_iff]
  constructor
  · rintro ⟨after, ⟨rest, rfl, hafter⟩, hinner⟩
    obtain ⟨hsolid, b, hne, hb, rfl⟩ := afterBlanks?_eq_some_iff.1 hafter
    obtain ⟨hinnerNe, hstart, hline, b', hb', rfl⟩ := restOfLine?_eq_some_iff.1 hinner
    -- What comes after the blanks has no more of them in front.
    have hnone : b' = [] := by
      have hsame := dropBlank_of_startsSolid hsolid
      rw [dropBlank_append hb', dropBlank_of_startsSolid hstart] at hsame
      exact List.self_eq_append_left.1 hsame
    subst hnone
    exact ⟨hinnerNe, hstart, hline, b, hne, hb, by simp⟩
  · rintro ⟨hne, hstart, hline, b, hbne, hb, rfl⟩
    have hafter : afterBlanks? (b ++ inner) = some inner :=
      afterBlanks?_eq_some_iff.2 ⟨hstart, b, hbne, hb, rfl⟩
    have hrest : restOfLine? inner = some inner :=
      restOfLine?_eq_some_iff.2 ⟨hne, hstart, hline, [], allBlank_nil, rfl⟩
    exact ⟨inner, ⟨b ++ inner, by simp, hafter⟩, hrest⟩

/-- The word `not` and blanks before a leaf make its negation. -/
theorem ofText_not {t b : Text} {l : Leaf} (h : ofText t = .ok l) (hline : '\n' ∉ t)
    (hne : b ≠ []) (hb : b.allBlank = true) :
    ofText ("not".toList ++ b ++ t) = .ok l.negate := by
  obtain ⟨c, rest, rfl, hc⟩ := (shape_of_ofText h).starts
  obtain ⟨d, b, rfl⟩ := List.exists_cons_of_ne_nil hne
  have hd := (allBlank_cons.1 hb).1
  have hname : leadingName? ("not".toList ++ d :: b ++ c :: rest) =
      some ("not".toList, d :: b ++ c :: rest) :=
    leadingName?_eq_some_iff.2 ⟨by decide, by simp, endsWord_cons.2 (isWord_eq_false_of_isBlank hd)⟩
  -- The word is taken for a name by all forms that are tried before, and what follows stops them.
  have hstate : ofEventState? ("not".toList ++ d :: b ++ c :: rest) = none := by
    have hdot : '.' ≠ d := by
      rintro rfl
      exact absurd hd (by decide)
    have hprefix : dropPrefix? ['.'] (d :: b ++ c :: rest) = none := by
      simp [dropPrefix?, hdot]
    simp only [ofEventState?, hname, Option.bind_eq_bind, Option.bind_some, hprefix,
      Option.bind_none]
  have hcomparison : comparison? ("not".toList ++ d :: b ++ c :: rest) = none := by
    have hdrop : dropBlank (d :: b ++ c :: rest) = c :: rest := by
      rw [dropBlank_append hb, dropBlank_of_startsSolid (startsSolid_cons.2 (isBlank_of_isWord hc))]
    simp only [comparison?, hname, Option.bind_eq_bind, Option.bind_some, hdrop,
      Sign.leading?_eq_none hc, Option.bind_none]
  have hcall (m : Method) : m.isCalledBy ("not".toList ++ d :: b ++ c :: rest) = false := by
    have hopen : d ≠ '(' := by
      rintro rfl
      exact absurd hd (by decide)
    simp only [Method.isCalledBy, Method.ofCall?, hname, Option.bind_eq_bind, Option.bind_some]
    simp [hopen]
  have hnegated : negated? ("not".toList ++ d :: b ++ c :: rest) = some (c :: rest) :=
    negated?_eq_some_iff.2 ⟨List.cons_ne_nil c rest,
      startsSolid_cons.2 (isBlank_of_isWord hc), hline, d :: b, hne, hb, rfl⟩
  rw [ofText]
  simp only [hstate, hcomparison, hcall, Option.isSome_none, Bool.false_eq_true, if_false]
  split
  · next inner hinner =>
    rw [hnegated] at hinner
    cases hinner
    rw [h, Except.map_ok]
  · next hnone =>
    rw [hnegated] at hnone
    cases hnone

end Leaf

end Overlay
