import Overlay.Proofs.Rule.Call
import Overlay.Proofs.StringLiteral

/-!
Written literals, as a grammar. A whole number is digits with an optional sign, a float
has a point between digits, and a string is its literal. What stands in front or in the
middle tells the three apart, so a text is the literal of one value at most. Every whole
number has a text, and so has every string that does not end in a backslash.
-/

namespace Overlay

open Text

namespace Text

/-! Signs and digits. -/

/-- The texts of a sign, with whether it makes a number negative. -/
inductive IsSign : Bool → Text → Prop
  | absent : IsSign false []
  | plus : IsSign false ['+']
  | minus : IsSign true ['-']

theorem isDigits_iff {t : Text} : t.isDigits = true ↔ t ≠ [] ∧ ∀ c ∈ t, isDigit c = true := by
  simp [isDigits]

theorem exists_cons_of_isDigits {t : Text} (h : t.isDigits = true) :
    ∃ c rest, t = c :: rest ∧ isDigit c = true := by
  obtain ⟨hne, hall⟩ := isDigits_iff.1 h
  obtain ⟨c, rest, rfl⟩ := List.exists_cons_of_ne_nil hne
  exact ⟨c, rest, rfl, hall c List.mem_cons_self⟩

theorem exists_sign (t : Text) : ∃ sign, IsSign t.signed.1 sign ∧ t = sign ++ t.signed.2 := by
  unfold signed
  split
  · exact ⟨['-'], .minus, rfl⟩
  · exact ⟨['+'], .plus, rfl⟩
  · exact ⟨[], .absent, rfl⟩

/-- A sign before a digit is found. -/
theorem signed_append {negative : Bool} {sign : Text} (h : IsSign negative sign) {c : Char}
    (hc : isDigit c = true) (rest : Text) :
    (sign ++ c :: rest).signed = (negative, c :: rest) := by
  cases h with
  | absent =>
      have hne {d : Char} (hd : isDigit d = false) : c ≠ d := by
        rintro rfl
        rw [hc] at hd
        cases hd
      rw [List.nil_append, signed]
      · rintro _ heq
        exact hne (d := '-') (by decide) (List.cons.inj heq).1
      · rintro _ heq
        exact hne (d := '+') (by decide) (List.cons.inj heq).1
  | plus => rfl
  | minus => rfl

theorem takeWhile_dropWhile_isDigit {whole : Text} (hwhole : ∀ c ∈ whole, isDigit c = true)
    (rest : Text) :
    (whole ++ '.' :: rest).takeWhile isDigit = whole ∧
      (whole ++ '.' :: rest).dropWhile isDigit = '.' :: rest := by
  constructor
  · rw [List.takeWhile_append_of_pos hwhole]
    simp [isDigit]
  · rw [List.dropWhile_append_of_pos hwhole]
    simp [isDigit]

/-- What the digits of a number stand for. -/
theorem natural_toDigits (n : Nat) : natural (Nat.toDigits 10 n) = n :=
  Nat.ofDigitChars_toDigits (by decide) (by decide)

theorem isDigits_toDigits (n : Nat) : isDigits (Nat.toDigits 10 n) = true :=
  isDigits_iff.2 ⟨Nat.toDigits_ne_nil,
    fun _ hc => Nat.isDigit_of_mem_toDigits (by decide) (by decide) hc⟩

/-- The number that a sign makes of another. -/
def applySign (negative : Bool) (n : Nat) : Int := if negative then -(n : Int) else n

theorem integer?_eq_some_iff {t : Text} {n : Int64} :
    t.integer? = some n ↔ ∃ negative sign digits, IsSign negative sign ∧ digits.isDigits = true ∧
      n.toInt = applySign negative (natural digits) ∧ t = sign ++ digits := by
  constructor
  · intro h
    simp only [integer?, Option.ite_none_right_eq_some, Option.some.injEq] at h
    obtain ⟨⟨hdigits, hlow, hhigh⟩, rfl⟩ := h
    obtain ⟨sign, hsign, ht⟩ := exists_sign t
    refine ⟨_, sign, t.signed.2, hsign, hdigits, ?_, ht⟩
    exact Int64.toInt_ofInt_of_le hlow (Int.lt_of_le_of_lt hhigh (by decide))
  · rintro ⟨negative, sign, digits, hsign, hdigits, hn, rfl⟩
    obtain ⟨c, rest, rfl, hc⟩ := exists_cons_of_isDigits hdigits
    have hlow : Int64.minValue.toInt ≤ applySign negative (natural (c :: rest)) :=
      hn ▸ Int64.minValue_le_toInt n
    have hhigh : applySign negative (natural (c :: rest)) ≤ Int64.maxValue.toInt :=
      hn ▸ Int64.toInt_le n
    have hread : integer? (sign ++ c :: rest) =
        if Int64.minValue.toInt ≤ applySign negative (natural (c :: rest)) ∧
            applySign negative (natural (c :: rest)) ≤ Int64.maxValue.toInt then
          some (Int64.ofInt (applySign negative (natural (c :: rest)))) else none := by
      simp only [integer?, signed_append hsign hc, hdigits, true_and]
      rfl
    rw [hread, if_pos ⟨hlow, hhigh⟩, ← hn, Int64.ofInt_toInt]

theorem float?_eq_some_iff {t : Text} {x : Float64} :
    t.float? = some x ↔ ∃ negative sign whole decimals, IsSign negative sign ∧
      whole.isDigits = true ∧ decimals.isDigits = true ∧
        x = .ofDecimal negative (natural (whole ++ decimals)) (-(decimals.length : Int)) ∧
        t = sign ++ (whole ++ '.' :: decimals) := by
  constructor
  · intro h
    simp only [float?] at h
    split at h
    · next decimals hdecimals =>
      split at h
      · next hdigits =>
        cases h
        obtain ⟨sign, hsign, ht⟩ := exists_sign t
        have hcut := List.takeWhile_append_dropWhile (p := isDigit) (l := t.signed.2)
        rw [hdecimals] at hcut
        exact ⟨_, sign, _, decimals, hsign, hdigits.1, hdigits.2, rfl, by rw [hcut, ← ht]⟩
      · cases h
    · cases h
  · rintro ⟨negative, sign, whole, decimals, hsign, hwhole, hdecimals, rfl, rfl⟩
    obtain ⟨c, rest, rfl, hc⟩ := exists_cons_of_isDigits hwhole
    obtain ⟨htake, hdrop⟩ := takeWhile_dropWhile_isDigit (isDigits_iff.1 hwhole).2 decimals
    have hsigned := signed_append hsign hc (rest ++ '.' :: decimals)
    rw [← List.cons_append] at hsigned
    simp only [float?, hsigned, htake, hdrop, hwhole, hdecimals, and_self, if_true]

end Text

namespace Literal

/-! Literals. -/

/-- The texts of a literal. -/
inductive IsWritten : Literal → Text → Prop
  | integer {negative : Bool} {sign digits : Text} {n : Int64} : IsSign negative sign →
      digits.isDigits = true → n.toInt = applySign negative (natural digits) →
      IsWritten (.integer n) (sign ++ digits)
  | float {negative : Bool} {sign whole decimals : Text} : IsSign negative sign →
      whole.isDigits = true → decimals.isDigits = true →
      IsWritten (.float (.ofDecimal negative (natural (whole ++ decimals))
        (-(decimals.length : Int)))) (sign ++ (whole ++ '.' :: decimals))
  | string {s : Text} : s.getLast? ≠ some '\\' → IsWritten (.string s) (literalOf s)

theorem isWritten_integer_iff {n : Int64} {t : Text} :
    (integer n).IsWritten t ↔ t.integer? = some n := by
  rw [integer?_eq_some_iff]
  constructor
  · intro h
    cases h with
    | integer hsign hdigits hn => exact ⟨_, _, _, hsign, hdigits, hn, rfl⟩
  · rintro ⟨_, _, _, hsign, hdigits, hn, rfl⟩
    exact .integer hsign hdigits hn

theorem isWritten_float_iff {x : Float64} {t : Text} :
    (float x).IsWritten t ↔ t.float? = some x := by
  rw [float?_eq_some_iff]
  constructor
  · intro h
    cases h with
    | float hsign hwhole hdecimals =>
        exact ⟨_, _, _, _, hsign, hwhole, hdecimals, rfl, rfl⟩
  · rintro ⟨_, _, _, _, hsign, hwhole, hdecimals, rfl, rfl⟩
    exact .float hsign hwhole hdecimals

theorem isWritten_string_iff {s t : Text} :
    (string s).IsWritten t ↔ t.unquote? = some s := by
  rw [unquote?_eq_some_iff]
  constructor
  · intro h
    cases h with
    | string hlast =>
        exact ⟨_, isBody_escapeQuotes hlast, rfl, (unescape_escapeQuotes s).symm⟩
  · rintro ⟨body, hbody, rfl, rfl⟩
    obtain ⟨hescape, hlast⟩ := escapeQuotes_unescape hbody
    have hwritten := IsWritten.string hlast
    rwa [literalOf, hescape] at hwritten

/-- A text is read as a literal exactly if it is written as this literal. -/
theorem ofText_eq_ok_iff_isWritten {t : Text} {l : Literal} :
    ofText t = .ok l ↔ l.IsWritten t := by
  have hquoted {s : Text} (h : t.unquote? = some s) : t.integer? = none ∧ t.float? = none := by
    have hnot (hnum : t ≠ [] ∧ ∀ c ∈ t, isNumeric c = true) : False := by
      rw [unquote?_of_numeric hnum] at h
      cases h
    exact ⟨Option.eq_none_iff_forall_ne_some.2 fun _ h => hnot (numeric_of_integer? h),
      Option.eq_none_iff_forall_ne_some.2 fun _ h => hnot (numeric_of_float? h)⟩
  simp only [ofText, ArgumentType.convertFirst?, ArgumentType.literal, ArgumentType.convert?,
    List.findSome?_cons, List.findSome?_nil]
  cases l with
  | integer n =>
      rw [isWritten_integer_iff]
      cases hinteger : t.integer? <;> cases t.float? <;> cases t.unquote? <;>
        simp [Argument.literal?]
  | float x =>
      rw [isWritten_float_iff]
      cases hinteger : t.integer? with
      | some n => simp [Argument.literal?, float?_of_integer? hinteger]
      | none => cases t.float? <;> cases t.unquote? <;> simp [Argument.literal?]
  | string s =>
      rw [isWritten_string_iff]
      cases hstring : t.unquote? with
      | some s' => simp [hquoted hstring, Argument.literal?]
      | none => cases t.integer? <;> cases t.float? <;> simp [Argument.literal?]

/-- The decimal text of a whole number is a text of its literal. -/
theorem isWritten_intText (n : Int64) : (integer n).IsWritten (FloatStyle.intText n.toInt) := by
  have htext (m : Nat) : (toString m).toList = Nat.toDigits 10 m := Nat.toList_repr
  cases hn : n.toInt with
  | ofNat m =>
      have hwritten := IsWritten.integer (n := n) .absent (isDigits_toDigits m)
        (by rw [hn, natural_toDigits]; rfl)
      rwa [← htext] at hwritten
  | negSucc m =>
      have hwritten := IsWritten.integer (n := n) .minus (isDigits_toDigits (m + 1))
        (by rw [hn, natural_toDigits]; rfl)
      have hminus : FloatStyle.intText (Int.negSucc m) = ['-'] ++ Nat.toDigits 10 (m + 1) := by
        rw [← htext]
        exact String.toList_append
      rwa [← hminus] at hwritten

/-- Whether a literal has a text of one line. -/
def IsWritable : Literal → Prop
  | integer _ => True
  | float x => ∃ t, (float x).IsWritten t
  | string s => s.getLast? ≠ some '\\' ∧ '\n' ∉ s

theorem mem_escapeQuotes_iff {c : Char} (hc : c ≠ '\\') {s : Text} :
    c ∈ escapeQuotes s ↔ c ∈ s := by
  induction s with
  | nil => rfl
  | cons d s ih =>
      by_cases hd : d = '"'
      · rw [hd, escapeQuotes_quote]
        simp [hc, ih]
      · rw [escapeQuotes_char hd]
        simp [ih]

theorem feed_mem_literalOf_iff {s : Text} : '\n' ∈ literalOf s ↔ '\n' ∈ s := by
  have h := @mem_escapeQuotes_iff '\n' (by decide) s
  simp [literalOf, h]

/-- The text of a number is on one line. -/
theorem not_feed_mem {t : Text} (h : t ≠ [] ∧ ∀ c ∈ t, isNumeric c = true) : '\n' ∉ t :=
  fun hmem => absurd (h.2 _ hmem) (by decide)

theorem isWritable_iff {l : Literal} : l.IsWritable ↔ ∃ t, l.IsWritten t ∧ '\n' ∉ t := by
  cases l with
  | integer n =>
      have hwritten := isWritten_intText n
      exact iff_of_true trivial
        ⟨_, hwritten, not_feed_mem (numeric_of_integer? (isWritten_integer_iff.1 hwritten))⟩
  | float x =>
      constructor
      · rintro ⟨t, ht⟩
        exact ⟨t, ht, not_feed_mem (numeric_of_float? (isWritten_float_iff.1 ht))⟩
      · rintro ⟨t, ht, -⟩
        exact ⟨t, ht⟩
  | string s =>
      constructor
      · rintro ⟨hlast, hline⟩
        exact ⟨_, .string hlast, mt feed_mem_literalOf_iff.1 hline⟩
      · rintro ⟨t, ht, hline⟩
        cases ht with
        | string hlast => exact ⟨hlast, mt feed_mem_literalOf_iff.2 hline⟩

end Literal

end Overlay
