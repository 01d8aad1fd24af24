import Overlay.Proofs.Text.Joined

/-!
Defects of brackets. Cutting a text with closed literals fails at the first closing
bracket that does not fit what is open there or, when there is none, at its end, where
a closing bracket is still expected. Text without brackets around it changes neither.
-/

namespace Overlay.Text

/-- The first closing bracket among some tokens that does not fit. -/
def strayCloser? (expected : List Char) : List Token → Option Char
  | [] => none
  | .literal _ :: rest => strayCloser? expected rest
  | .char c :: rest =>
    match closer? c with
    | some close => strayCloser? (close :: expected) rest
    | none =>
      if isCloser c then
        match expected with
        | [] => some c
        | e :: outer => if e = c then strayCloser? outer rest else some c
      else strayCloser? expected rest

section

variable {expected below : List Char} {ts : List Token} {c : Char}

theorem strayCloser?_eq_none_iff :
    strayCloser? expected ts = none ↔ ∃ es, expectedAfter expected ts = some es := by
  fun_induction strayCloser? expected ts <;> simp_all [expectedAfter]

theorem strayCloser?_append (h : strayCloser? expected ts = some c) (us : List Token) :
    strayCloser? expected (ts ++ us) = some c := by
  fun_induction strayCloser? expected ts <;> simp_all [strayCloser?]

/-- A closing bracket that does not fit fits at most the bracket that was open before. -/
theorem strayCloser?_below (h : strayCloser? expected ts = some c)
    (hbelow : strayCloser? (expected ++ below) ts = none) : below.head? = some c := by
  fun_induction strayCloser? expected ts with
  | case1 => cases h
  | case2 expected t rest ih => exact ih h hbelow
  | case3 expected d rest close hclose ih =>
      simp only [strayCloser?, hclose] at hbelow
      exact ih h hbelow
  | case4 d rest hclose hcloser =>
      -- Here nothing was open above, so the bracket below is the next one to be closed.
      cases h
      simp only [strayCloser?, hclose, hcloser, if_true, List.nil_append] at hbelow
      split at hbelow
      · cases hbelow
      · split at hbelow
        · next heq => rw [heq, List.head?_cons]
        · cases hbelow
  | case5 rest d outer hclose hcloser ih =>
      simp only [strayCloser?, hclose, hcloser, if_true, List.cons_append] at hbelow
      exact ih h hbelow
  | case6 d rest hclose hcloser e outer hne =>
      simp only [strayCloser?, hclose, hcloser, if_true, List.cons_append, if_neg hne] at hbelow
      cases hbelow
  | case7 expected d rest hclose hcloser ih =>
      simp only [strayCloser?, hclose, if_neg hcloser] at hbelow
      exact ih h hbelow

theorem strayCloser?_plain {u : Text} (hu : ∀ c ∈ u, isPlain c = true) (ts : List Token) :
    strayCloser? expected (u.map .char ++ ts) = strayCloser? expected ts := by
  induction u with
  | nil => rfl
  | cons c u ih =>
      obtain ⟨-, -, hclose, hcloser⟩ := isPlain_iff.1 (hu c List.mem_cons_self)
      simp [strayCloser?, hclose, hcloser, ih fun d hd => hu d (List.mem_cons_of_mem c hd)]

end

theorem structureFrom_eq_error_iff {expected : List Char} {begun : Text} {ts : List Token}
    {e : Fault} : structureFrom expected begun ts = .error e ↔
      ∃ c, strayCloser? expected ts = some c ∧ e = .unmatchedClosing c := by
  fun_induction structureFrom expected begun ts with
  | case1 => simp [strayCloser?]
  | case2 expected begun t rest hexp ih =>
      obtain rfl : expected = [] := by simpa using hexp
      rw [Except.map_eq_error_iff, ih, strayCloser?]
  | case3 expected begun t rest hexp ih => rw [ih, strayCloser?]
  | case4 expected begun c rest close hclose hexp ih =>
      obtain rfl : expected = [] := by simpa using hexp
      simp only [Except.map_eq_error_iff, ih, strayCloser?, hclose]
  | case5 expected begun c rest close hclose hexp ih => simp only [ih, strayCloser?, hclose]
  | case6 begun c rest hclose hcloser => simp [strayCloser?, hclose, hcloser, eq_comm]
  | case7 begun rest c outer houter hclose hcloser ih =>
      obtain rfl : outer = [] := by simpa using houter
      simp only [Except.map_eq_error_iff, ih, strayCloser?, hclose, hcloser, if_true]
  | case8 begun rest c outer houter hclose hcloser ih =>
      simp only [ih, strayCloser?, hclose, hcloser, if_true]
  | case9 begun c rest hclose hcloser e outer hne =>
      simp [strayCloser?, hclose, hcloser, hne, eq_comm]
  | case10 expected begun c rest hclose hcloser ih =>
      simp only [ih, strayCloser?, hclose, if_neg hcloser]

theorem bracketStructure_of_quoted {t : Text} {ts : List Token} (hts : Quoted t ts) :
    t.bracketStructure = structureFrom [] [] ts := by
  rw [bracketStructure, quotes_eq_ok_iff.2 ⟨ts, hts, rfl⟩, Except.ok_bind, tokens_stretchesFrom]
  rfl

/-- With its literals closed, a text has a stray closing bracket or an open one. -/
theorem brackets_eq_error_iff {t : Text} {ts : List Token} (hts : Quoted t ts) {e : Fault} :
    t.brackets = .error e ↔ (∃ c, strayCloser? [] ts = some c ∧ e = .unmatchedClosing c) ∨
      ∃ o es, expectedAfter [] ts = some (o :: es) ∧ e = .unmatchedOpening o := by
  rw [brackets, bracketStructure_of_quoted hts]
  cases hscan : structureFrom [] [] ts with
  | error e' =>
      obtain ⟨c, hc, rfl⟩ := structureFrom_eq_error_iff.1 hscan
      have hnone : expectedAfter [] ts = none := by
        rw [Option.eq_none_iff_forall_ne_some]
        intro es hes
        rw [strayCloser?_eq_none_iff.2 ⟨es, hes⟩] at hc
        cases hc
      rw [Except.bind_eq_error_iff]
      simp [hc, hnone, eq_comm]
  | ok r =>
      have hexpected := (@expectedAfter_eq_some_iff [] [] ts r.expected).2 ⟨r, hscan, rfl⟩
      have hnone := strayCloser?_eq_none_iff.2 ⟨_, hexpected⟩
      rw [Except.ok_bind, hexpected, hnone]
      split
      · next hclosed => simp [hclosed]
      · next o es hopen => simp [hopen, eq_comm]

/-- What is wrong with the brackets of a text is wrong with it also between other
characters. -/
theorem brackets_error_between {u t v : Text} (hu : ∀ c ∈ u, isPlain c = true)
    (hv : ∀ c ∈ v, isPlain c = true) {ts : List Token} (hts : Quoted t ts) {e : Fault}
    (h : t.brackets = .error e) : (u ++ t ++ v).brackets = .error e := by
  have hhead {x : Text} (hx : ∀ c ∈ x, isPlain c = true) : x.head? ≠ some '"' := fun hquote =>
    absurd (hx _ (List.mem_of_head? hquote)) (by decide)
  have hwhole : Quoted (u ++ t ++ v) (u.map .char ++ ts ++ v.map .char) := by
    refine ((quoted_of_plain hu).append hts fun hlast => ?_).append_of_head (quoted_of_plain hv)
      (hhead hv)
    exact absurd (hu _ (List.mem_of_getLast? hlast)) (by decide)
  rw [brackets_eq_error_iff hts] at h
  rw [brackets_eq_error_iff hwhole]
  rcases h with ⟨c, hc, rfl⟩ | ⟨o, es, hes, rfl⟩
  · left
    exact ⟨c, strayCloser?_append (by rwa [strayCloser?_plain hu]) _, rfl⟩
  · right
    refine ⟨o, es, ?_, rfl⟩
    rw [expectedAfter_append, expectedAfter_append, expectedAfter_plain hu, Option.bind_some, hes,
      Option.bind_some, expectedAfter_plain hv]

end Overlay.Text
