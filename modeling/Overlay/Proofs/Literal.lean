import Overlay.Call.Argument
import Overlay.Proofs.Text.Parts

/-!
The text of a literal. Numbers are written with digits, signs and a point, and
a string is one literal of the text.
-/

namespace Overlay

/-- Whether a character may stand in a written number. -/
def isNumeric (c : Char) : Bool := isDigit c || c == '+' || c == '-' || c == '.'

theorem isPlain_of_isNumeric {c : Char} (h : isNumeric c = true) : Text.isPlain c = true :=
  Text.isPlain_of h (by decide)

theorem isBlank_of_isNumeric {c : Char} (h : isNumeric c = true) : isBlank c = false := by
  rw [Bool.eq_false_iff]
  intro hblank
  have hfalse := of_isBlank (P := fun c => isNumeric c = false) (by decide) hblank
  rw [h] at hfalse
  cases hfalse

namespace Text

/-! Strings. -/

theorem isLiteral_of_unquote? {t s : Text} (h : t.unquote? = some s) : IsLiteral t := by
  unfold unquote? at h
  split at h
  · next literal hquotes =>
    obtain ⟨ts, hts, hss⟩ := quotes_eq_ok_iff.1 hquotes
    obtain rfl := stretchesFrom_eq_singleton_iff.1 hss.symm
    cases hts with
    | literal hl hnil =>
        cases hnil
        rwa [List.append_nil]
  · cases h

/-- Numbers have no quotes. -/
theorem unquote?_of_numeric {t : Text} (h : t ≠ [] ∧ ∀ c ∈ t, isNumeric c = true) :
    t.unquote? = none := by
  refine Option.eq_none_iff_forall_ne_some.2 fun s hs => ?_
  obtain ⟨body, -, rfl⟩ := isLiteral_of_unquote? hs
  exact absurd (h.2 '"' List.mem_cons_self) (by decide)

theorem unquote?_eq_some_iff {t s : Text} : t.unquote? = some s ↔
    ∃ body, IsBody body ∧ t = '"' :: body ++ ['"'] ∧ s = unescape body := by
  have hread {body : Text} (hbody : IsBody body) :
      unquote? ('"' :: body ++ ['"']) = some (unescape body) := by
    have hquoted := Quoted.literal ⟨body, hbody, rfl⟩ .nil
    rw [List.append_nil] at hquoted
    have hquotes : quotes ('"' :: body ++ ['"']) = .ok [.inside ('"' :: body ++ ['"'])] :=
      quotes_eq_ok_iff.2 ⟨_, hquoted, rfl⟩
    simp only [unquote?, hquotes]
    simp [inner]
  constructor
  · intro h
    obtain ⟨body, hbody, rfl⟩ := isLiteral_of_unquote? h
    rw [hread hbody] at h
    exact ⟨body, hbody, rfl, (Option.some.inj h).symm⟩
  · rintro ⟨body, hbody, rfl, rfl⟩
    exact hread hbody

end Text

namespace Literal

open Text

theorem numeric_of_isDigits {t : Text} (h : t.isDigits = true) :
    t ≠ [] ∧ ∀ c ∈ t, isNumeric c = true := by
  simp only [isDigits, Bool.and_eq_true, Bool.not_eq_true', List.isEmpty_eq_false_iff,
    List.all_eq_true] at h
  refine ⟨h.1, fun c hc => ?_⟩
  have hdigit := h.2 c hc
  simp [isNumeric, hdigit]

theorem numeric_of_signed {t : Text} (h : t.signed.2 ≠ [] ∧ ∀ c ∈ t.signed.2, isNumeric c = true) :
    t ≠ [] ∧ ∀ c ∈ t, isNumeric c = true := by
  unfold signed at h
  split at h
  · exact ⟨List.cons_ne_nil _ _, List.forall_mem_cons.2 ⟨by decide, h.2⟩⟩
  · exact ⟨List.cons_ne_nil _ _, List.forall_mem_cons.2 ⟨by decide, h.2⟩⟩
  · exact h

theorem numeric_of_integer? {t : Text} {n : Int64} (h : t.integer? = some n) :
    t ≠ [] ∧ ∀ c ∈ t, isNumeric c = true := by
  simp only [integer?, Option.ite_none_right_eq_some] at h
  exact numeric_of_signed (numeric_of_isDigits h.1.1)

theorem numeric_of_float? {t : Text} {x : Float64} (h : t.float? = some x) :
    t ≠ [] ∧ ∀ c ∈ t, isNumeric c = true := by
  simp only [float?] at h
  split at h
  · next decimals hdecimals =>
    split at h
    · next hdigits =>
      have hcut := List.takeWhile_append_dropWhile (p := isDigit) (l := t.signed.2)
      rw [hdecimals] at hcut
      obtain ⟨hne, hwhole⟩ := numeric_of_isDigits hdigits.1
      obtain ⟨-, hdec⟩ := numeric_of_isDigits hdigits.2
      refine numeric_of_signed ?_
      rw [← hcut]
      refine ⟨by simp, fun c hc => ?_⟩
      rcases List.mem_append.1 hc with hc | hc
      · exact hwhole c hc
      · rcases List.mem_cons.1 hc with rfl | hc
        · decide
        · exact hdec c hc
    · cases h
  · cases h

/-- A literal is read from a number or from a quoted string. -/
theorem written_of_ofText {t : Text} {l : Literal} (h : ofText t = .ok l) :
    (t ≠ [] ∧ ∀ c ∈ t, isNumeric c = true) ∨ IsLiteral t := by
  cases hinteger : t.integer? with
  | some n => exact .inl (numeric_of_integer? hinteger)
  | none =>
      cases hfloat : t.float? with
      | some x => exact .inl (numeric_of_float? hfloat)
      | none =>
          cases hstring : t.unquote? with
          | some s => exact .inr (isLiteral_of_unquote? hstring)
          | none =>
              simp [ofText, ArgumentType.convertFirst?, ArgumentType.literal,
                ArgumentType.convert?, hinteger, hfloat, hstring] at h

end Literal

end Overlay
