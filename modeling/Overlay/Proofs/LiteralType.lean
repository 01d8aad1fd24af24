import Overlay.Proofs.Arguments
import Overlay.Proofs.Numeral

/-!
Types of literals. A text is read as one literal at most, whichever types are tried, since
only a string has quotes and, of the numbers, only a float has a point. So the order in which
the types of a position are tried plays no part. What does not follow from this is that a
whole number keeps its value: its digits may stand for any number, and those beyond the range
of 64 bits are refused as a whole number, while they have no point to be a float.
-/

namespace Overlay

open Text

/-! Whole numbers. -/

namespace Text

/-- Whether a text is digits with an optional sign, and stands for a number. -/
def WritesWhole (v : Int) (t : Text) : Prop :=
  ∃ negative sign digits, IsSign negative sign ∧ digits.isDigits = true ∧
    v = applySign negative (natural digits) ∧ t = sign ++ digits

theorem writesWhole_iff {v : Int} {t : Text} : WritesWhole v t ↔
    t.signed.2.isDigits = true ∧ v = applySign t.signed.1 (natural t.signed.2) := by
  constructor
  · rintro ⟨negative, sign, digits, hsign, hdigits, rfl, rfl⟩
    obtain ⟨c, rest, rfl, hc⟩ := exists_cons_of_isDigits hdigits
    rw [signed_append hsign hc]
    exact ⟨hdigits, rfl⟩
  · rintro ⟨hdigits, rfl⟩
    obtain ⟨sign, hsign, ht⟩ := exists_sign t
    exact ⟨_, sign, _, hsign, hdigits, rfl, ht⟩

theorem WritesWhole.unique {v w : Int} {t : Text} (h : WritesWhole v t) (h' : WritesWhole w t) :
    v = w := by
  rw [(writesWhole_iff.1 h).2, (writesWhole_iff.1 h').2]

theorem WritesWhole.numeric {v : Int} {t : Text} (h : WritesWhole v t) :
    t ≠ [] ∧ ∀ c ∈ t, isNumeric c = true :=
  Literal.numeric_of_signed (Literal.numeric_of_isDigits (writesWhole_iff.1 h).1)

theorem WritesWhole.exists_integer? {v : Int} {t : Text} (h : WritesWhole v t)
    (hlow : Int64.minValue.toInt ≤ v) (hhigh : v ≤ Int64.maxValue.toInt) :
    ∃ n : Int64, n.toInt = v ∧ t.integer? = some n := by
  have hvalue : (Int64.ofInt v).toInt = v :=
    Int64.toInt_ofInt_of_le hlow (Int.lt_of_le_of_lt hhigh (by decide))
  exact ⟨_, hvalue, integer?_eq_some_iff.2 (hvalue.symm ▸ h)⟩

/-- Digits that stand for no number of 64 bits are no literal. -/
theorem WritesWhole.ofText_eq_error {v : Int} {t : Text} (h : WritesWhole v t)
    (hrange : v < Int64.minValue.toInt ∨ Int64.maxValue.toInt < v) :
    Literal.ofText t = .error (.invalidLiteral t) := by
  have hinteger : t.integer? = none := by
    refine Option.eq_none_iff_forall_ne_some.2 fun n hn => ?_
    obtain rfl := h.unique (integer?_eq_some_iff.1 hn)
    have hlow := n.minValue_le_toInt
    have hhigh := n.toInt_le
    omega
  have hfloat := float?_of_isDigits (writesWhole_iff.1 h).1
  simp [Literal.ofText, ArgumentType.convertFirst?, ArgumentType.literal, ArgumentType.convert?,
    hinteger, hfloat, unquote?_of_numeric h.numeric]

end Text

/-! Types. -/

namespace Literal

/-- The type of arguments that a literal is of. -/
def type : Literal → ArgumentType
  | integer _ => .integer
  | float _ => .float
  | string _ => .string

/-- A literal as an argument of its type. -/
def argument : Literal → Argument
  | integer n => .integer n
  | float x => .float x
  | string s => .string s

@[simp] theorem literal?_argument (l : Literal) : l.argument.literal? = some l := by
  cases l <;> rfl

theorem isWritten_iff_convert? {l : Literal} {t : Text} :
    l.IsWritten t ↔ l.type.convert? t = some l.argument := by
  cases l with
  | integer n => simp [isWritten_integer_iff, type, argument, ArgumentType.convert?]
  | float x => simp [isWritten_float_iff, type, argument, ArgumentType.convert?]
  | string s => simp [isWritten_string_iff, type, argument, ArgumentType.convert?]

theorem IsWritten.unique {l l' : Literal} {t : Text} (h : l.IsWritten t) (h' : l'.IsWritten t) :
    l = l' := by
  rw [← ofText_eq_ok_iff_isWritten] at h h'
  exact Except.ok.inj (h.symm.trans h')

end Literal

namespace ArgumentType

theorem exists_literal_of_convert? {type : ArgumentType} (htype : type ∈ literal) {t : Text}
    {a : Argument} (h : type.convert? t = some a) :
    ∃ l : Literal, l.IsWritten t ∧ l.type = type ∧ a = l.argument := by
  obtain ⟨l, rfl, rfl⟩ : ∃ l : Literal, l.type = type ∧ a = l.argument := by
    cases type with
    | integer =>
        obtain ⟨n, -, rfl⟩ := Option.map_eq_some_iff.1 h
        exact ⟨.integer n, rfl, rfl⟩
    | float =>
        obtain ⟨x, -, rfl⟩ := Option.map_eq_some_iff.1 h
        exact ⟨.float x, rfl, rfl⟩
    | string =>
        obtain ⟨s, -, rfl⟩ := Option.map_eq_some_iff.1 h
        exact ⟨.string s, rfl, rfl⟩
    | dataName | time | untyped => exact absurd htype (by decide)
  exact ⟨l, Literal.isWritten_iff_convert?.2 h, rfl, rfl⟩

/-- Trying types of literals finds the literal that a text is, if its type is among them. -/
theorem convertFirst?_eq_some_iff {types : List ArgumentType}
    (htypes : ∀ type ∈ types, type ∈ literal) {t : Text} {a : Argument} :
    convertFirst? types t = some a ↔
      ∃ l : Literal, l.IsWritten t ∧ l.type ∈ types ∧ a = l.argument := by
  constructor
  · intro h
    obtain ⟨type, htype, ha⟩ := List.exists_of_findSome?_eq_some h
    obtain ⟨l, hl, rfl, rfl⟩ := exists_literal_of_convert? (htypes type htype) ha
    exact ⟨l, hl, htype, rfl⟩
  · rintro ⟨l, hl, htype, rfl⟩
    have hsome : (convertFirst? types t).isSome = true :=
      List.findSome?_isSome_iff.2 ⟨l.type, htype, by rw [Literal.isWritten_iff_convert?.1 hl]; rfl⟩
    -- Whichever type is the first that fits, it is that of the same literal.
    obtain ⟨a, ha⟩ := Option.isSome_iff_exists.1 hsome
    obtain ⟨type, htype', ha'⟩ := List.exists_of_findSome?_eq_some ha
    obtain ⟨l', hl', -, rfl⟩ := exists_literal_of_convert? (htypes type htype') ha'
    rw [ha, hl.unique hl']

/-- Whether two positions of a format allow the same types, those of literals in any order. -/
def Alike (types types' : List ArgumentType) : Prop :=
  types = types' ∨ (∀ type ∈ types, type ∈ literal) ∧ types.Perm types'

theorem Alike.convertFirst?_eq {types types' : List ArgumentType} (h : Alike types types')
    (t : Text) : convertFirst? types t = convertFirst? types' t := by
  obtain rfl | ⟨htypes, hperm⟩ := h
  · rfl
  · have htypes' : ∀ type ∈ types', type ∈ literal := fun type htype =>
      htypes type (hperm.mem_iff.2 htype)
    refine Option.ext fun a => ?_
    simp only [convertFirst?_eq_some_iff htypes, convertFirst?_eq_some_iff htypes', hperm.mem_iff]

theorem convertFrom_of_alike {m : Method} {position : Nat} {ts : List Text}
    {format format' : List (List ArgumentType)} {args : List Argument}
    (h : List.Forall₂ Alike format format') :
    m.convertFrom position ts format = .ok args ↔ m.convertFrom position ts format' = .ok args := by
  induction h generalizing position ts args with
  | nil => rfl
  | @cons types types' format format' htypes _ ih =>
      cases ts with
      | nil => rfl
      | cons t ts =>
          rw [Method.convertFrom, Method.convertFrom, htypes.convertFirst?_eq t]
          cases convertFirst? types' t with
          | none => simp
          | some a => simp only [Except.bind_eq_ok_iff, ih]

/-- The types of literals exclude each other, and whole numbers are exact. No text is of two
of the types, so neither a literal nor an argument depends on the order in which they are
tried. A whole number is an optional sign and digits that stand for a number of 64 bits, and
it is this number; digits that stand for any other number are no literal. The decimal text
of each number is a literal of it. -/
theorem literal_types_exact :
    (∀ t, ∀ type ∈ literal, ∀ type' ∈ literal, (type.convert? t).isSome = true →
      (type'.convert? t).isSome = true → type = type') ∧
    (∀ types, types.Perm literal → ∀ t l, Literal.ofText t = .ok l ↔
      (convertFirst? types t).bind Argument.literal? = some l) ∧
    (∀ (m : Method) ts format format' args, List.Forall₂ Alike format format' →
      (m.convert ts format = .ok args ↔ m.convert ts format' = .ok args)) ∧
    (∀ t a, integer.convert? t = some a ↔ ∃ n : Int64, a = .integer n ∧ WritesWhole n.toInt t) ∧
    (∀ t v, WritesWhole v t → Int64.minValue.toInt ≤ v → v ≤ Int64.maxValue.toInt →
      ∃ n : Int64, n.toInt = v ∧ integer.convert? t = some (.integer n)) ∧
    (∀ t v, WritesWhole v t → v < Int64.minValue.toInt ∨ Int64.maxValue.toInt < v →
      Literal.ofText t = .error (.invalidLiteral t)) ∧
    (∀ n : Int64, Literal.ofText (FloatStyle.intText n.toInt) = .ok (.integer n)) := by
  refine ⟨?disjoint, ?literals, ?arguments, ?whole, ?inRange, ?beyond, ?decimal⟩
  case disjoint =>
    intro t type htype type' htype' h h'
    obtain ⟨a, ha⟩ := Option.isSome_iff_exists.1 h
    obtain ⟨a', ha'⟩ := Option.isSome_iff_exists.1 h'
    obtain ⟨l, hl, rfl, -⟩ := exists_literal_of_convert? htype ha
    obtain ⟨l', hl', rfl, -⟩ := exists_literal_of_convert? htype' ha'
    rw [hl.unique hl']
  case literals =>
    intro types hperm t l
    have halike : Alike types literal := .inr ⟨fun type htype => hperm.mem_iff.1 htype, hperm⟩
    rw [halike.convertFirst?_eq, Literal.ofText]
    cases (convertFirst? literal t).bind Argument.literal? <;> simp
  case arguments =>
    intro m ts format format' args h
    exact convertFrom_of_alike h
  case whole =>
    intro t a
    simp only [convert?, Option.map_eq_some_iff, integer?_eq_some_iff, WritesWhole,
      eq_comm (a := a), and_comm]
  case inRange =>
    intro t v h hlow hhigh
    obtain ⟨n, hn, hread⟩ := h.exists_integer? hlow hhigh
    exact ⟨n, hn, congrArg (Option.map Argument.integer) hread⟩
  case beyond => exact fun t v h => h.ofText_eq_error
  case decimal => exact fun n => Literal.ofText_eq_ok_iff_isWritten.2 (Literal.isWritten_intText n)

/-- The greatest number has a successor that is written in the same way and is no literal. -/
theorem literal_types_exact_limits :
    Literal.ofText "9223372036854775808".toList =
      .error (.invalidLiteral "9223372036854775808".toList) ∧
    ∃ n : Int64, n.toInt = -9223372036854775808 ∧
      integer.convert? "-9223372036854775808".toList = some (.integer n) := by
  have hbeyond : WritesWhole 9223372036854775808 "9223372036854775808".toList :=
    writesWhole_iff.2 (by decide)
  have hleast : WritesWhole (-9223372036854775808) "-9223372036854775808".toList :=
    writesWhole_iff.2 (by decide)
  obtain ⟨-, -, -, -, hexact, hnone, -⟩ := literal_types_exact
  exact ⟨hnone _ _ hbeyond (.inr (by decide)), hexact _ _ hleast (by decide) (by decide)⟩

end ArgumentType

end Overlay
