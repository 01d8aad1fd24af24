import Overlay.Proofs.Text.Stray

/-!
Brackets that pair off. What the scan for brackets makes of a text is told by the word
of its brackets outside of literals: the scan fails at the first closing bracket that
does not match the innermost one that is open, and otherwise the word leaves some
brackets open. Each of the two is said here by a grammar of words, without a stack; the
stack of the scan holds a closing bracket for each of the open ones.
-/

namespace Overlay.Text

def isBracket (c : Char) : Bool := (closer? c).isSome || isCloser c

/-- The brackets of a text that was cut at its literals, except those in literals. -/
def bracketWord (ss : List Stretch) : Text := (Stretch.outsides ss).flatten.filter isBracket

/-- The words of brackets that pair off. -/
inductive Paired : Text → Prop
  | nil : Paired []
  | group {o c : Char} {w v : Text} (ho : closer? o = some c) :
      Paired w → Paired v → Paired (o :: w ++ c :: v)

/-- The words of brackets that pair off but for some opening ones, which are listed with
the innermost first. -/
inductive LeavesOpen : Text → Text → Prop
  | paired {w : Text} : Paired w → LeavesOpen w []
  | opening {o c : Char} {w v os : Text} (ho : closer? o = some c) :
      LeavesOpen w os → Paired v → LeavesOpen (w ++ o :: v) (o :: os)

/-- Whether a word has a closing bracket that does not match the innermost open one, and
this is the first. -/
def IsStray (w : Text) (c : Char) : Prop :=
  ∃ front back os, w = front ++ c :: back ∧ LeavesOpen front os ∧ isCloser c = true ∧
    os.head?.bind closer? ≠ some c

theorem Paired.append {w v : Text} (hw : Paired w) (hv : Paired v) : Paired (w ++ v) := by
  induction hw with
  | nil => exact hv
  | group ho hbody _ _ ih =>
      rw [List.append_assoc, List.cons_append]
      exact .group ho hbody ih

theorem LeavesOpen.append {w v os : Text} (hw : LeavesOpen w os) (hv : Paired v) :
    LeavesOpen (w ++ v) os := by
  cases hw with
  | paired hw => exact .paired (hw.append hv)
  | opening ho hw hu =>
      rw [List.append_assoc, List.cons_append]
      exact .opening ho hw (hu.append hv)

/-- The word of a sequence of tokens. -/
def wordOf (ts : List Token) : Text :=
  ts.filterMap fun
    | .char c => if isBracket c then some c else none
    | .literal _ => none

theorem wordOf_append (ts us : List Token) : wordOf (ts ++ us) = wordOf ts ++ wordOf us :=
  List.filterMap_append

theorem wordOf_chars (t : Text) : wordOf (t.map .char) = t.filter isBracket := by
  induction t with
  | nil => rfl
  | cons c t ih =>
      have hcons : wordOf ((c :: t).map .char) = wordOf [.char c] ++ wordOf (t.map .char) :=
        wordOf_append [.char c] _
      rw [hcons, ih]
      by_cases hc : isBracket c = true <;> simp [wordOf, hc]

theorem wordOf_tokens (ss : List Stretch) : wordOf (tokens ss) = bracketWord ss := by
  induction ss with
  | nil => rfl
  | cons s ss ih =>
      have hcons : tokens (s :: ss) = tokens [s] ++ tokens ss := by simp [tokens]
      rw [hcons, wordOf_append, ih]
      cases s with
      | outside t =>
          have hone : tokens [.outside t] = t.map .char := by simp [tokens]
          rw [hone, wordOf_chars]
          simp [bracketWord, Stretch.outsides]
      | inside t => rfl

theorem bracketWord_stretchesFrom (ts : List Token) :
    bracketWord (stretchesFrom [] ts) = wordOf ts := by
  rw [← wordOf_tokens, tokens_stretchesFrom]
  rfl

theorem isBracket_of_mem_wordOf {ts : List Token} {c : Char} (h : c ∈ wordOf ts) :
    isBracket c = true := by
  rw [← bracketWord_stretchesFrom] at h
  exact (List.mem_filter.1 h).2

/-! The stack of the scan. -/

/-- Only the brackets of a sequence of tokens matter to the stack. -/
theorem expectedAfter_wordOf (expected : List Char) (ts : List Token) :
    expectedAfter expected ((wordOf ts).map .char) = expectedAfter expected ts := by
  fun_induction expectedAfter expected ts <;> simp_all [wordOf, expectedAfter, isBracket]

theorem strayCloser?_wordOf (expected : List Char) (ts : List Token) :
    strayCloser? expected ((wordOf ts).map .char) = strayCloser? expected ts := by
  fun_induction strayCloser? expected ts <;> simp_all [wordOf, strayCloser?, isBracket]

theorem Paired.expectedAfter {w : Text} (h : Paired w) (expected : List Char) :
    expectedAfter expected (w.map .char) = some expected := by
  induction h generalizing expected with
  | nil => rfl
  | @group o c w v ho _ _ ihw ihv =>
      have hcloser := isCloser_of_closer? ho
      rw [List.map_append, List.map_cons, List.map_cons, List.cons_append]
      simp only [Text.expectedAfter, ho, expectedAfter_append, ihw, Option.bind_some,
        closer?_of_isCloser hcloser, hcloser, if_true, ihv]

/-- The stack holds the closing brackets of those that are open. -/
theorem LeavesOpen.expectedAfter {w os : Text} (h : LeavesOpen w os) :
    ∃ es, expectedAfter [] (w.map .char) = some es ∧
      List.Forall₂ (fun o e => closer? o = some e) os es := by
  induction h with
  | paired hw => exact ⟨[], hw.expectedAfter [], .nil⟩
  | @opening o c w v os ho _ hv ih =>
      obtain ⟨es, hes, hall⟩ := ih
      refine ⟨c :: es, ?_, .cons ho hall⟩
      rw [List.map_append, expectedAfter_append, hes, Option.bind_some, List.map_cons]
      simp only [Text.expectedAfter, ho, hv.expectedAfter]

/-- A word with a stack leaves open what the stack is to close. -/
theorem exists_leavesOpen {w : Text} (hw : ∀ c ∈ w, isBracket c = true) {es : List Char}
    (h : expectedAfter [] (w.map .char) = some es) :
    ∃ os, LeavesOpen w os ∧ List.Forall₂ (fun o e => closer? o = some e) os es := by
  -- From the back: what was read last is on top of the stack.
  induction w using List.reverseRecOn generalizing es with
  | nil =>
      cases h
      exact ⟨[], .paired .nil, .nil⟩
  | append_singleton w c ih =>
      rw [List.map_append, expectedAfter_append] at h
      obtain ⟨es', hes', hlast⟩ := Option.bind_eq_some_iff.1 h
      obtain ⟨os, hos, hall⟩ := ih (fun d hd => hw d (List.mem_append_left _ hd)) hes'
      cases hclose : closer? c with
      | some close =>
          obtain rfl : close :: es' = es := by simpa [Text.expectedAfter, hclose] using hlast
          exact ⟨c :: os, .opening hclose hos .nil, .cons hclose hall⟩
      | none =>
          have hcloser : isCloser c = true := by simpa [isBracket, hclose] using hw c (by simp)
          cases hall with
          | nil => simp [Text.expectedAfter, hclose, hcloser] at hlast
          | @cons o e os es' ho hall =>
              obtain ⟨rfl, rfl⟩ : e = c ∧ es' = es := by
                simpa [Text.expectedAfter, hclose, hcloser] using hlast
              refine ⟨os, ?_, hall⟩
              cases hos with
              | opening _ hfront hbody =>
                  rw [List.append_assoc, List.cons_append]
                  exact hfront.append (.group ho hbody .nil)

theorem strayCloser?_append_of_expectedAfter {expected es : List Char} {ts : List Token}
    (h : expectedAfter expected ts = some es) (us : List Token) :
    strayCloser? expected (ts ++ us) = strayCloser? es us := by
  fun_induction expectedAfter expected ts <;> simp_all [strayCloser?]

theorem expectedAfter_singleton_eq_none_iff {expected : List Char} {a : Token} :
    expectedAfter expected [a] = none ↔
      ∃ c, a = .char c ∧ isCloser c = true ∧ expected.head? ≠ some c := by
  cases a with
  | literal t => simp [expectedAfter]
  | char c =>
      cases hclose : closer? c with
      | some close =>
          have hcloser : isCloser c = false := by
            rw [Bool.eq_false_iff]
            intro hcloser
            rw [closer?_of_isCloser hcloser] at hclose
            cases hclose
          simp [expectedAfter, hclose, hcloser]
      | none =>
          cases expected <;> cases hcloser : isCloser c <;> simp [expectedAfter, hclose, hcloser]

theorem strayCloser?_cons_of_head {es : List Char} {c : Char} (hcloser : isCloser c = true)
    (hhead : es.head? ≠ some c) (ts : List Token) : strayCloser? es (.char c :: ts) = some c := by
  cases es with
  | nil => simp [strayCloser?, closer?_of_isCloser hcloser, hcloser]
  | cons e es =>
      have hne : e ≠ c := by simpa using hhead
      simp [strayCloser?, closer?_of_isCloser hcloser, hcloser, hne]

/-- The stack before a closing bracket that does not fit has another one on top, or is
empty. -/
theorem strayCloser?_eq_some_iff {expected : List Char} {ts : List Token} {c : Char} :
    strayCloser? expected ts = some c ↔ ∃ front back es, ts = front ++ .char c :: back ∧
      expectedAfter expected front = some es ∧ isCloser c = true ∧ es.head? ≠ some c := by
  constructor
  · intro h
    induction ts generalizing expected with
    | nil => cases h
    | cons a ts ih =>
        cases ha : expectedAfter expected [a] with
        | some es =>
            rw [← List.singleton_append, strayCloser?_append_of_expectedAfter ha] at h
            obtain ⟨front, back, es', rfl, hes', hc⟩ := ih h
            refine ⟨a :: front, back, es', rfl, ?_, hc⟩
            rw [← List.singleton_append, expectedAfter_append, ha, Option.bind_some, hes']
        | none =>
            -- The token has no place on this stack, so it is the closing bracket itself.
            obtain ⟨d, rfl, hcloser, hhead⟩ := expectedAfter_singleton_eq_none_iff.1 ha
            rw [strayCloser?_cons_of_head hcloser hhead] at h
            cases h
            exact ⟨[], ts, expected, rfl, rfl, hcloser, hhead⟩
  · rintro ⟨front, back, es, rfl, hes, hcloser, hhead⟩
    rw [strayCloser?_append_of_expectedAfter hes, strayCloser?_cons_of_head hcloser hhead]

theorem head?_bind_closer? {os es : Text} (h : List.Forall₂ (fun o e => closer? o = some e) os es) :
    os.head?.bind closer? = es.head? := by
  cases h with
  | nil => rfl
  | cons ho _ => exact ho

/-- The scan stops at the first closing bracket that does not match. -/
theorem isStray_wordOf_iff {ts : List Token} {c : Char} :
    IsStray (wordOf ts) c ↔ strayCloser? [] ts = some c := by
  rw [← strayCloser?_wordOf, strayCloser?_eq_some_iff]
  constructor
  · rintro ⟨front, back, os, hw, hos, hcloser, hhead⟩
    obtain ⟨es, hes, hall⟩ := hos.expectedAfter
    rw [head?_bind_closer? hall] at hhead
    exact ⟨front.map .char, back.map .char, es, by simp [hw], hes, hcloser, hhead⟩
  · rintro ⟨front, back, es, heq, hes, hcloser, hhead⟩
    obtain ⟨u, v, hw, rfl, hv⟩ := List.map_eq_append_iff.1 heq
    obtain ⟨d, v, rfl, hd, -⟩ := List.map_eq_cons_iff.1 hv
    cases hd
    have hbracket : ∀ d ∈ u, isBracket d = true := fun d hd =>
      isBracket_of_mem_wordOf (hw ▸ List.mem_append_left _ hd)
    obtain ⟨os, hos, hall⟩ := exists_leavesOpen hbracket hes
    exact ⟨u, v, os, hw, hos, hcloser, by rwa [head?_bind_closer? hall]⟩

end Overlay.Text
