import Overlay.Source.Opening

/-!
Names at the beginning of a text. A text is cut in one way only into a name
and a rest that does not go on with a word character, so the cut is determined
by that property and its parts can be put together again.
-/

namespace Overlay

theorem isBlank_of_isWord {c : Char} (h : isWord c = true) : isBlank c = false := by
  rw [Bool.eq_false_iff]
  intro hblank
  rw [isWord_eq_false_of_isBlank hblank] at h
  cases h

namespace Text

theorem isName_iff {t : Text} : t.isName = true ↔ t ≠ [] ∧ ∀ c ∈ t, isWord c = true := by
  simp [isName, List.all_eq_true]

theorem not_mem_of_isName {t : Text} {d : Char} (h : t.isName = true) (hd : isWord d = false) :
    d ∉ t := by
  intro hmem
  rw [(isName_iff.1 h).2 d hmem] at hd
  cases hd

theorem ne_of_isWord {c d : Char} (hc : isWord c = true) (hd : isWord d = false) : c ≠ d := by
  rintro rfl
  rw [hc] at hd
  cases hd

/-- Whether a text does not begin with a word character. -/
def EndsWord (t : Text) : Prop := ∀ c ∈ t.head?, isWord c = false

@[simp] theorem endsWord_nil : EndsWord [] := by
  intro c hc
  cases hc

@[simp] theorem endsWord_cons {c : Char} {t : Text} : EndsWord (c :: t) ↔ isWord c = false := by
  simp [EndsWord]

theorem spanWord_eq {name rest : Text} (hname : ∀ c ∈ name, isWord c = true)
    (hrest : EndsWord rest) : (name ++ rest).spanWord = (name, rest) := by
  induction name with
  | nil =>
      cases rest with
      | nil => rfl
      | cons c rest =>
          have hc : isWord c = false := by simpa using hrest
          simp [spanWord, hc]
  | cons c name ih =>
      have hc := hname c List.mem_cons_self
      have ih := ih fun d hd => hname d (List.mem_cons_of_mem _ hd)
      simp only [spanWord, Prod.mk.injEq] at ih
      simp [spanWord, hc, ih.1, ih.2]

theorem endsWord_spanWord (t : Text) : EndsWord t.spanWord.2 := by
  induction t with
  | nil => exact endsWord_nil
  | cons c t ih =>
      by_cases hc : isWord c = true
      · simpa [spanWord, hc] using ih
      · simp [spanWord, hc]

/-- A leading name is a name, and it stops where the word characters stop. -/
theorem leadingName?_eq_some_iff {t name rest : Text} :
    t.leadingName? = some (name, rest) ↔
      name.isName = true ∧ t = name ++ rest ∧ EndsWord rest := by
  constructor
  · intro h
    have hall : ∀ c ∈ t.spanWord.1, isWord c = true := List.all_eq_true.1 List.all_takeWhile
    have happend := t.spanWord_append
    have hends := endsWord_spanWord t
    unfold leadingName? at h
    split at h
    · cases h
    · next hne hspan =>
      cases h
      rw [hspan] at hall happend hends
      refine ⟨isName_iff.2 ⟨fun hnil => hne ?_, hall⟩, happend.symm, hends⟩
      exact hnil
  · rintro ⟨hname, rfl, hrest⟩
    obtain ⟨hne, hall⟩ := isName_iff.1 hname
    unfold leadingName?
    rw [spanWord_eq hall hrest]
    cases name with
    | nil => exact absurd rfl hne
    | cons c name => rfl

theorem isName_of_leadingName? {t name rest : Text}
    (h : t.leadingName? = some (name, rest)) : name.isName = true :=
  (leadingName?_eq_some_iff.1 h).1

theorem nameThen?_eq_some_iff {mark t name rest : Text} :
    nameThen? mark t = some (name, rest) ↔
      ∃ after, t.leadingName? = some (name, after) ∧ after.dropBlank = mark ++ rest := by
  simp only [nameThen?, Option.bind_eq_bind, Option.bind_eq_some_iff, dropPrefix?_eq_some_iff,
    Option.some.injEq, Prod.mk.injEq, Prod.exists]
  constructor
  · rintro ⟨_, after, hname, _, hafter, rfl, rfl⟩
    exact ⟨after, hname, hafter⟩
  · rintro ⟨after, hname, hafter⟩
    exact ⟨name, after, hname, rest, hafter, rfl, rfl⟩

end Text

end Overlay
