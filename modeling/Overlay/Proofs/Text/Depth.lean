import Overlay.Proofs.Text.Parts

/-!
Open brackets. How many brackets a text leaves open is the length of the list of
closing brackets that are still expected at its end, which a scan over its
tokens finds.
-/

namespace Overlay.Text

/-- The closing brackets that are expected after some tokens, if all closing
brackets among them fit. -/
def expectedAfter (expected : List Char) : List Token → Option (List Char)
  | [] => some expected
  | .literal _ :: rest => expectedAfter expected rest
  | .char c :: rest =>
    match closer? c with
    | some close => expectedAfter (close :: expected) rest
    | none =>
      if isCloser c then
        match expected with
        | [] => none
        | e :: outer => if e = c then expectedAfter outer rest else none
      else expectedAfter expected rest

theorem expectedAfter_eq_some_iff {expected : List Char} {begun : Text} {ts : List Token}
    {es : List Char} : expectedAfter expected ts = some es ↔
      ∃ r, structureFrom expected begun ts = .ok r ∧ r.expected = es := by
  fun_induction structureFrom expected begun ts with
  | case1 expected begun => simp [expectedAfter]
  | case2 expected begun t rest hexp ih =>
      obtain rfl : expected = [] := by simpa using hexp
      simp [expectedAfter, ih, Except.map_eq_ok_iff, Structure.cons, Structure.consOutside]
  | case3 expected begun t rest hexp ih => simp [expectedAfter, ih]
  | case4 expected begun c rest close hclose hexp ih =>
      obtain rfl : expected = [] := by simpa using hexp
      simp [expectedAfter, hclose, ih, Except.map_eq_ok_iff, Structure.consOutside]
  | case5 expected begun c rest close hclose hexp ih => simp [expectedAfter, hclose, ih]
  | case6 begun c rest hclose hcloser => simp [expectedAfter, hclose, hcloser]
  | case7 begun rest c outer houter hclose hcloser ih =>
      obtain rfl : outer = [] := by simpa using houter
      simp [expectedAfter, hclose, hcloser, ih, Except.map_eq_ok_iff, Structure.cons]
  | case8 begun rest c outer houter hclose hcloser ih =>
      simp [expectedAfter, hclose, hcloser, ih]
  | case9 begun c rest hclose hcloser e outer hne => simp [expectedAfter, hclose, hcloser, hne]
  | case10 expected begun c rest hclose hcloser ih => simp [expectedAfter, hclose, hcloser, ih]

theorem exists_bracketStructure_iff {t : Text} {es : List Char} :
    (∃ r, t.bracketStructure = .ok r ∧ r.expected = es) ↔
      ∃ ts, Quoted t ts ∧ expectedAfter [] ts = some es := by
  simp only [bracketStructure, Except.bind_eq_ok_iff]
  constructor
  · rintro ⟨r, ⟨ss, hss, hr⟩, hexpected⟩
    obtain ⟨ts, hts, rfl⟩ := quotes_eq_ok_iff.1 hss
    rw [tokens_stretchesFrom] at hr
    exact ⟨ts, hts, expectedAfter_eq_some_iff.2 ⟨r, hr, hexpected⟩⟩
  · rintro ⟨ts, hts, hes⟩
    obtain ⟨r, hr, hexpected⟩ := (@expectedAfter_eq_some_iff [] [] ts es).1 hes
    refine ⟨r, ⟨_, quotes_eq_ok_iff.2 ⟨ts, hts, rfl⟩, ?_⟩, hexpected⟩
    rw [tokens_stretchesFrom]
    exact hr

theorem bracketDepth_eq_ok_iff {t : Text} {depth : Nat} : t.bracketDepth = .ok depth ↔
    ∃ ts es, Quoted t ts ∧ expectedAfter [] ts = some es ∧ es.length = depth := by
  simp only [bracketDepth, Except.bind_eq_ok_iff, Except.pure_eq_ok_iff]
  constructor
  · rintro ⟨r, hr, hdepth⟩
    obtain ⟨ts, hts, hes⟩ := exists_bracketStructure_iff.1 ⟨r, hr, rfl⟩
    exact ⟨ts, r.expected, hts, hes, hdepth⟩
  · rintro ⟨ts, es, hts, hes, hdepth⟩
    obtain ⟨r, hr, rfl⟩ := exists_bracketStructure_iff.2 ⟨ts, hts, hes⟩
    exact ⟨r, hr, hdepth⟩

theorem exists_balanced_of_bracketDepth {t : Text} (h : t.bracketDepth = .ok 0) :
    ∃ as, Balanced t as := by
  obtain ⟨r, hr, hdepth⟩ := Except.bind_eq_ok_iff.1 h
  have hclosed : r.expected = [] := by
    simpa [Except.pure_eq_ok_iff] using hdepth
  have hbrackets : t.brackets = .ok r.stretches := by
    rw [brackets, hr, Except.ok_bind, hclosed]
  obtain ⟨as, has, -⟩ := brackets_eq_ok_iff.1 hbrackets
  exact ⟨as, has⟩

theorem expectedAfter_append (expected : List Char) (ts us : List Token) :
    expectedAfter expected (ts ++ us) =
      (expectedAfter expected ts).bind fun es => expectedAfter es us := by
  fun_induction expectedAfter expected ts <;> simp_all [expectedAfter]

/-- Closing brackets that are expected below do not matter to a scan that does not reach
them. -/
theorem expectedAfter_below {expected es : List Char} {ts : List Token}
    (h : expectedAfter expected ts = some es) (below : List Char) :
    expectedAfter (expected ++ below) ts = some (es ++ below) := by
  fun_induction expectedAfter expected ts <;> simp_all [expectedAfter]

theorem expectedAfter_plain {t : Text} (ht : ∀ c ∈ t, isPlain c = true) (expected : List Char) :
    expectedAfter expected (t.map .char) = some expected := by
  induction t with
  | nil => rfl
  | cons c t ih =>
      obtain ⟨-, -, hclose, hcloser⟩ := isPlain_iff.1 (ht c List.mem_cons_self)
      simp [expectedAfter, hclose, hcloser, ih fun d hd => ht d (List.mem_cons_of_mem c hd)]

end Overlay.Text
