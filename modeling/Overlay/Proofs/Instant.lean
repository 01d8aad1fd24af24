import Overlay.Instant
import Overlay.Proofs.Numeral
import Mathlib.Tactic.IntervalCases

/-!
Points in time, read and ordered. A text names an instant if its digits stand for a day of
the Gregorian calendar and a time of this day. Its fields have fixed widths and stand in the
order in which they count, so texts come in the order of their instants; and as every field
stays within the field before it, this is also the order of the seconds that have gone by.
-/

namespace Overlay

open Text

/-! Numbers of a fixed width. -/

theorem isDigit_iff_toNat {c : Char} : isDigit c = true ↔ 48 ≤ c.toNat ∧ c.toNat ≤ 57 := by
  simp [isDigit, Char.isDigit, UInt32.le_iff_toNat_le]

theorem digitValue_le {c : Char} (hc : isDigit c = true) : digitValue c ≤ 9 :=
  Nat.sub_le_of_le_add (isDigit_iff_toNat.1 hc).2

/-- Digits come in the order of their values. -/
theorem lt_iff_digitValue_lt {c d : Char} (hc : isDigit c = true) (hd : isDigit d = true) :
    c < d ↔ digitValue c < digitValue d := by
  have hzero : '0'.toNat = 48 := rfl
  have hc := isDigit_iff_toNat.1 hc
  have hd := isDigit_iff_toNat.1 hd
  rw [Char.lt_def, UInt32.lt_iff_toNat_lt, digitValue, digitValue, hzero]
  show c.toNat < d.toNat ↔ _
  omega

namespace Text

/-- The digits that follow cannot make up for a greater beginning. -/
theorem ofDigitChars_lt {s t : Text} (hlen : s.length = t.length)
    (hs : ∀ c ∈ s, isDigit c = true) {m n : Nat} (h : m < n) :
    Nat.ofDigitChars 10 s m < Nat.ofDigitChars 10 t n := by
  induction s generalizing t m n with
  | nil =>
      obtain rfl := List.length_eq_zero_iff.1 hlen.symm
      simpa using h
  | cons c s ih =>
      cases t with
      | nil => cases hlen
      | cons d t =>
          obtain ⟨hc, hs⟩ := List.forall_mem_cons.1 hs
          have hvalue : c.toNat - '0'.toNat ≤ 9 := digitValue_le hc
          rw [Nat.ofDigitChars_cons, Nat.ofDigitChars_cons]
          exact ih (Nat.succ.inj hlen) hs (by omega)

/-- Texts that begin with as many digits come in the order of the numbers, and behind equal
numbers in the order of what follows. -/
theorem append_lt_append_iff {s t u v : Text} (hlen : s.length = t.length)
    (hs : ∀ c ∈ s, isDigit c = true) (ht : ∀ c ∈ t, isDigit c = true) (n : Nat) :
    s ++ u < t ++ v ↔ Nat.ofDigitChars 10 s n < Nat.ofDigitChars 10 t n ∨
      Nat.ofDigitChars 10 s n = Nat.ofDigitChars 10 t n ∧ u < v := by
  induction s generalizing t n with
  | nil =>
      obtain rfl := List.length_eq_zero_iff.1 hlen.symm
      simp
  | cons c s ih =>
      cases t with
      | nil => cases hlen
      | cons d t =>
          obtain ⟨hc, hcs⟩ := List.forall_mem_cons.1 hs
          obtain ⟨hd, hds⟩ := List.forall_mem_cons.1 ht
          have hrest : s.length = t.length := Nat.succ.inj hlen
          rw [List.cons_append, List.cons_append, List.cons_lt_cons_iff,
            Nat.ofDigitChars_cons, Nat.ofDigitChars_cons]
          rcases Std.lt_trichotomy c d with hlt | rfl | hgt
          · -- The first digit decides, in the text and in the number.
            have hvalue : c.toNat - '0'.toNat < d.toNat - '0'.toNat :=
              (lt_iff_digitValue_lt hc hd).1 hlt
            have hnumber := ofDigitChars_lt hrest hcs (Nat.add_lt_add_left hvalue (10 * n))
            exact iff_of_true (.inl hlt) (.inl hnumber)
          · simpa [Std.lt_irrefl] using ih hrest hcs hds _
          · have hvalue : d.toNat - '0'.toNat < c.toNat - '0'.toNat :=
              (lt_iff_digitValue_lt hd hc).1 hgt
            have hnumber := ofDigitChars_lt hrest.symm hds (Nat.add_lt_add_left hvalue (10 * n))
            refine iff_of_false ?_ ?_
            · rintro (hlt | ⟨rfl, -⟩)
              · exact Char.lt_asymm hgt hlt
              · exact Std.lt_irrefl hgt
            · omega

/-- Whether a text is a number of so many decimal digits. -/
structure IsNumber (width n : Nat) (t : Text) : Prop where
  length : t.length = width
  digits : ∀ c ∈ t, isDigit c = true
  value : natural t = n

theorem IsNumber.append_lt_append_iff {width m n : Nat} {s t u v : Text}
    (hs : IsNumber width m s) (ht : IsNumber width n t) :
    s ++ u < t ++ v ↔ m < n ∨ m = n ∧ u < v := by
  rw [← hs.value, ← ht.value]
  exact Text.append_lt_append_iff (hs.length.trans ht.length.symm) hs.digits ht.digits 0

theorem IsNumber.lt_iff {width m n : Nat} {s t : Text} (hs : IsNumber width m s)
    (ht : IsNumber width n t) : s < t ↔ m < n := by
  have happend := hs.append_lt_append_iff ht (u := []) (v := [])
  simpa using happend

theorem IsNumber.unique {width n : Nat} {s t : Text} (hs : IsNumber width n s)
    (ht : IsNumber width n t) : s = t := by
  have hst : ¬s < t := fun hlt => Nat.lt_irrefl n ((hs.lt_iff ht).1 hlt)
  have hts : ¬t < s := fun hlt => Nat.lt_irrefl n ((ht.lt_iff hs).1 hlt)
  exact List.le_antisymm (List.not_lt.1 hts) (List.not_lt.1 hst)

/-- A number has no more digits than a text that stands for it. -/
theorem length_toDigits_natural_le {t : Text} (hne : t ≠ []) (h : ∀ c ∈ t, isDigit c = true) :
    (Nat.toDigits 10 (natural t)).length ≤ t.length := by
  rw [Nat.length_toDigits_le_iff (by decide) (List.length_pos_iff.2 hne)]
  -- The number is less than that of the same digits with a one in front.
  have hlt : Nat.ofDigitChars 10 t 0 < Nat.ofDigitChars 10 (List.replicate t.length '0') 1 :=
    ofDigitChars_lt List.length_replicate.symm h Nat.zero_lt_one
  rwa [Nat.ofDigitChars_replicate_zero, Nat.mul_one] at hlt

end Text

namespace Instant

theorem number?_eq_some_iff {width n : Nat} {t rest : Text} :
    number? width t = some (n, rest) ↔ ∃ s, IsNumber width n s ∧ t = s ++ rest := by
  simp only [number?]
  constructor
  · intro h
    split at h
    · next hdigits =>
      cases h
      exact ⟨t.take width, ⟨hdigits.1, List.all_eq_true.1 hdigits.2, rfl⟩,
        (List.take_append_drop width t).symm⟩
    · cases h
  · rintro ⟨s, ⟨rfl, hdigits, rfl⟩, rfl⟩
    rw [List.take_left, List.drop_left, if_pos ⟨rfl, List.all_eq_true.2 hdigits⟩]

/-- A number is written with zeros in front as it was read. -/
theorem padded_of_isNumber {width n : Nat} {t : Text} (hwidth : 0 < width)
    (h : IsNumber width n t) : padded width n = t := by
  refine IsNumber.unique ⟨?_, ?_, ?_⟩ h
  · have hne : t ≠ [] := List.length_pos_iff.1 (h.length ▸ hwidth)
    have hlen := length_toDigits_natural_le hne h.digits
    rw [h.value, h.length] at hlen
    simp only [padded, List.length_append, List.length_replicate]
    omega
  · intro c hc
    rcases List.mem_append.1 hc with hc | hc
    · rw [(List.mem_replicate.1 hc).2]
      rfl
    · exact Nat.isDigit_of_mem_toDigits (by decide) (by decide) hc
  · show Nat.ofDigitChars 10 (padded width n) 0 = n
    simp only [padded, Nat.ofDigitChars_append, Nat.ofDigitChars_replicate_zero, Nat.mul_zero]
    exact natural_toDigits n

/-! The calendar. -/

/-- Whether a year has a leap day. -/
def IsLeap (year : Nat) : Prop := 4 ∣ year ∧ (100 ∣ year → 400 ∣ year)

instance : DecidablePred IsLeap := fun year =>
  inferInstanceAs (Decidable (4 ∣ year ∧ (100 ∣ year → 400 ∣ year)))

/-- How many days the months of a year have. -/
def monthLengths (year : Nat) : List Nat :=
  [31, if IsLeap year then 29 else 28, 31, 30, 31, 30, 31, 31, 30, 31, 30, 31]

theorem isLeapYear_iff {year : Nat} : isLeapYear year = true ↔ IsLeap year := by
  simp only [isLeapYear, IsLeap, Bool.and_eq_true, Bool.or_eq_true, beq_iff_eq, bne_iff_ne]
  omega

/-- The length of each month is that of its number, and there is no other month. -/
theorem monthLengths_getElem? (year index : Nat) :
    (monthLengths year)[index]? = if index < 12 then some (daysIn year (index + 1)) else none := by
  have hleap : (if IsLeap year then 29 else 28) = if isLeapYear year then 29 else 28 := by
    simp only [isLeapYear_iff]
  rw [monthLengths, hleap]
  by_cases h : index < 12
  · rw [if_pos h]
    interval_cases index <;> rfl
  · rw [if_neg h]
    exact List.getElem?_eq_none (Nat.not_lt.1 h)

/-- Whether there is such a day, and such a time on it. A minute may have a leap second. -/
structure IsReal (i : Instant) : Prop where
  month : 1 ≤ i.month
  firstDay : 1 ≤ i.day
  lastDay : ∃ length, (monthLengths i.year)[i.month - 1]? = some length ∧ i.day ≤ length
  hour : i.hour ≤ 23
  minute : i.minute ≤ 59
  second : i.second ≤ 60

theorem isValid_iff {i : Instant} : i.isValid = true ↔ i.year ≤ 9999 ∧ i.IsReal := by
  simp only [isValid, Bool.and_eq_true, decide_eq_true_eq]
  constructor
  · rintro ⟨⟨⟨⟨⟨⟨⟨hyear, hmonth⟩, hlast⟩, hday⟩, hlength⟩, hhour⟩, hminute⟩, hsecond⟩
    refine ⟨hyear, hmonth, hday, ⟨daysIn i.year i.month, ?_, hlength⟩, hhour, hminute, hsecond⟩
    rw [monthLengths_getElem?, if_pos (by omega), Nat.sub_add_cancel hmonth]
  · rintro ⟨hyear, hmonth, hday, ⟨length, hlength, hle⟩, hhour, hminute, hsecond⟩
    rw [monthLengths_getElem?, Option.ite_none_right_eq_some, Nat.sub_add_cancel hmonth,
      Option.some.injEq] at hlength
    obtain ⟨hlast, rfl⟩ := hlength
    exact ⟨⟨⟨⟨⟨⟨⟨hyear, hmonth⟩, by omega⟩, hday⟩, hle⟩, hhour⟩, hminute⟩, hsecond⟩

/-! Reading. -/

/-- Whether a text is `YYYYMMDDTHHMMSS` with the fields of an instant. -/
def IsWritten (i : Instant) (t : Text) : Prop :=
  ∃ year month day hour minute second, IsNumber 4 i.year year ∧ IsNumber 2 i.month month ∧
    IsNumber 2 i.day day ∧ IsNumber 2 i.hour hour ∧ IsNumber 2 i.minute minute ∧
    IsNumber 2 i.second second ∧
    t = year ++ (month ++ (day ++ 'T' :: (hour ++ (minute ++ second))))

theorem year_le_of_isNumber {n : Nat} {t : Text} (h : IsNumber 4 n t) : n ≤ 9999 := by
  have hne : t ≠ [] := List.length_pos_iff.1 (h.length ▸ Nat.zero_lt_succ 3)
  have hlen := length_toDigits_natural_le hne h.digits
  rw [h.value, h.length, Nat.length_toDigits_le_iff (by decide) (by decide)] at hlen
  exact Nat.le_of_lt_succ hlen

theorem ofText?_eq_some_iff {t : Text} {i : Instant} :
    ofText? t = some i ↔ i.IsReal ∧ i.IsWritten t := by
  simp only [ofText?, Option.bind_eq_bind, Option.bind_eq_some_iff, Prod.exists,
    number?_eq_some_iff, dropPrefix?_eq_some_iff, Option.ite_none_right_eq_some, isValid_iff,
    List.isEmpty_iff, Option.some.injEq]
  constructor
  · rintro ⟨_, _, ⟨year, hyear, rfl⟩, _, _, ⟨month, hmonth, rfl⟩, _, _, ⟨day, hday, rfl⟩, _, rfl,
      _, _, ⟨hour, hhour, rfl⟩, _, _, ⟨minute, hminute, rfl⟩, _, _, ⟨second, hsecond, rfl⟩,
      ⟨rfl, -, hreal⟩, rfl⟩
    exact ⟨hreal, year, month, day, hour, minute, second, hyear, hmonth, hday, hhour, hminute,
      hsecond, by simp⟩
  · rintro ⟨hreal, year, month, day, hour, minute, second, hyear, hmonth, hday, hhour, hminute,
      hsecond, rfl⟩
    exact ⟨_, _, ⟨year, hyear, rfl⟩, _, _, ⟨month, hmonth, rfl⟩, _, _, ⟨day, hday, rfl⟩, _, rfl,
      _, _, ⟨hour, hhour, rfl⟩, _, _, ⟨minute, hminute, rfl⟩, _, _,
      ⟨second, hsecond, (List.append_nil second).symm⟩, ⟨rfl, year_le_of_isNumber hyear, hreal⟩,
      rfl⟩

theorem IsWritten.forall_mem {i : Instant} {t : Text} (h : i.IsWritten t) :
    ∀ c ∈ t, isDigit c = true ∨ c = 'T' := by
  obtain ⟨year, month, day, hour, minute, second, hyear, hmonth, hday, hhour, hminute, hsecond,
    rfl⟩ := h
  simp only [List.mem_append, List.mem_cons]
  rintro c (hc | hc | hc | rfl | hc | hc | hc)
  · exact .inl (hyear.digits c hc)
  · exact .inl (hmonth.digits c hc)
  · exact .inl (hday.digits c hc)
  · exact .inr rfl
  · exact .inl (hhour.digits c hc)
  · exact .inl (hminute.digits c hc)
  · exact .inl (hsecond.digits c hc)

/-- The text of an instant is the one from which it was read. -/
theorem text_of_isWritten {i : Instant} {t : Text} (h : i.IsWritten t) : i.text = t := by
  obtain ⟨year, month, day, hour, minute, second, hyear, hmonth, hday, hhour, hminute, hsecond,
    rfl⟩ := h
  have htwo : 0 < 2 := by decide
  simp [text, padded_of_isNumber (by decide) hyear, padded_of_isNumber htwo hmonth,
    padded_of_isNumber htwo hday, padded_of_isNumber htwo hhour, padded_of_isNumber htwo hminute,
    padded_of_isNumber htwo hsecond]

/-! The order of texts. -/

theorem fields_lt_iff {i j : Instant} : i.fields < j.fields ↔ i.year < j.year ∨ i.year = j.year ∧
    (i.month < j.month ∨ i.month = j.month ∧ (i.day < j.day ∨ i.day = j.day ∧
      (i.hour < j.hour ∨ i.hour = j.hour ∧ (i.minute < j.minute ∨ i.minute = j.minute ∧
        i.second < j.second)))) := by
  simp [fields, List.cons_lt_cons_iff]

/-- Texts come in the order of the fields. -/
theorem lt_iff_fields_lt {i j : Instant} {t u : Text} (hi : i.IsWritten t) (hj : j.IsWritten u) :
    t < u ↔ i.fields < j.fields := by
  obtain ⟨_, _, _, _, _, _, hyear, hmonth, hday, hhour, hminute, hsecond, rfl⟩ := hi
  obtain ⟨_, _, _, _, _, _, hyear', hmonth', hday', hhour', hminute', hsecond', rfl⟩ := hj
  rw [fields_lt_iff, hyear.append_lt_append_iff hyear', hmonth.append_lt_append_iff hmonth',
    hday.append_lt_append_iff hday', List.cons_lt_cons_iff, hhour.append_lt_append_iff hhour',
    hminute.append_lt_append_iff hminute', hsecond.lt_iff hsecond']
  simp

/-! The order of time. -/

/-- If stretches begin one behind the other, places in them are ordered by the stretch and
then within it. -/
theorem start_add_lt_iff {start size : Nat → Nat} (h : ∀ n, start n + size n ≤ start (n + 1))
    {m n k l : Nat} (hk : k < size m) (hl : l < size n) :
    start m + k < start n + l ↔ m < n ∨ m = n ∧ k < l := by
  have hmono : Monotone start :=
    monotone_nat_of_le_succ fun n => Nat.le_trans (Nat.le_add_right _ _) (h n)
  have hbehind {m n k l : Nat} (hk : k < size m) (hlt : m < n) : start m + k < start n + l := by
    have hnext := h m
    have hstart : start (m + 1) ≤ start n := hmono (Nat.succ_le_of_lt hlt)
    omega
  rcases Nat.lt_trichotomy m n with hlt | rfl | hgt
  · exact iff_of_true (hbehind hk hlt) (.inl hlt)
  · simp
  · have hbefore := hbehind (l := k) hl hgt
    omega

/-- The days before a year, counted from the year zero. -/
def daysBefore : Nat → Nat
  | 0 => 0
  | year + 1 => daysBefore year + (monthLengths year).sum

/-- The days of the year before the day of an instant. -/
def dayOfYear (i : Instant) : Nat :=
  ((monthLengths i.year).take (i.month - 1)).sum + (i.day - 1)

/-- The days before the day of an instant, counted from the start of the year zero. -/
def dayNumber (i : Instant) : Nat := daysBefore i.year + i.dayOfYear

/-- The seconds before an instant, counted from the start of the year zero, if every minute
has room for a leap second. -/
def place (i : Instant) : Nat := ((i.dayNumber * 24 + i.hour) * 60 + i.minute) * 61 + i.second

theorem sum_take_succ (ns : List Nat) (n : Nat) :
    (ns.take n).sum + ns[n]?.getD 0 = (ns.take (n + 1)).sum := by
  rw [List.take_add_one, List.sum_append]
  cases ns[n]? <;> simp

namespace IsReal

variable {i j : Instant}

theorem day_lt (h : i.IsReal) : i.day - 1 < (monthLengths i.year)[i.month - 1]?.getD 0 := by
  obtain ⟨length, hlength, hle⟩ := h.lastDay
  rw [hlength, Option.getD_some]
  exact Nat.sub_one_lt_of_le h.firstDay hle

theorem dayOfYear_lt (h : i.IsReal) : i.dayOfYear < (monthLengths i.year).sum := by
  have hday := h.day_lt
  have hmonth := sum_take_succ (monthLengths i.year) (i.month - 1)
  have hyear : ((monthLengths i.year).take (i.month - 1 + 1)).sum +
      ((monthLengths i.year).drop (i.month - 1 + 1)).sum = (monthLengths i.year).sum := by
    rw [← List.sum_append, List.take_append_drop]
  unfold dayOfYear
  omega

theorem dayNumber_lt_iff (hi : i.IsReal) (hj : j.IsReal) :
    i.dayNumber < j.dayNumber ↔ i.year < j.year ∨ i.year = j.year ∧
      (i.month < j.month ∨ i.month = j.month ∧ i.day < j.day) := by
  rw [dayNumber, dayNumber, @start_add_lt_iff daysBefore (fun year => (monthLengths year).sum)
    (fun _ => Nat.le_refl _) _ _ _ _ hi.dayOfYear_lt hj.dayOfYear_lt]
  refine or_congr_right (and_congr_right fun hyear => ?_)
  rw [dayOfYear, dayOfYear, hyear,
    @start_add_lt_iff (fun month => ((monthLengths j.year).take month).sum)
      (fun month => (monthLengths j.year)[month]?.getD 0)
      (fun _ => Nat.le_of_eq (sum_take_succ _ _)) _ _ _ _ (hyear ▸ hi.day_lt) hj.day_lt]
  have hmonth := hi.month
  have hmonth' := hj.month
  have hday := hi.firstDay
  have hday' := hj.firstDay
  omega

/-- Fields come in the order of time. -/
theorem place_lt_iff (hi : i.IsReal) (hj : j.IsReal) : i.place < j.place ↔ i.fields < j.fields := by
  have hlt := hi.dayNumber_lt_iff hj
  have hgt := hj.dayNumber_lt_iff hi
  have hhour := hi.hour
  have hhour' := hj.hour
  have hminute := hi.minute
  have hminute' := hj.minute
  have hsecond := hi.second
  have hsecond' := hj.second
  rw [fields_lt_iff, place, place]
  omega

end IsReal

section

variable {i j : Instant} {t u : Text}

theorem eq_iff_of_ofText? (hi : ofText? t = some i) (hj : ofText? u = some j) :
    i = j ↔ t = u := by
  constructor
  · rintro rfl
    rw [← text_of_isWritten (ofText?_eq_some_iff.1 hi).2,
      text_of_isWritten (ofText?_eq_some_iff.1 hj).2]
  · rintro rfl
    exact Option.some.inj (hi.symm.trans hj)

/-- An instant comes after another just if its text comes behind. -/
theorem isAfter_iff_lt (hi : ofText? t = some i) (hj : ofText? u = some j) :
    i.isAfter j = true ↔ u < t := by
  rw [lt_iff_fields_lt (ofText?_eq_some_iff.1 hj).2 (ofText?_eq_some_iff.1 hi).2, isAfter,
    decide_eq_true_iff]

/-- An instant comes after another just if more time has gone by. -/
theorem isAfter_iff_place_lt (hi : ofText? t = some i) (hj : ofText? u = some j) :
    i.isAfter j = true ↔ j.place < i.place := by
  rw [(ofText?_eq_some_iff.1 hj).1.place_lt_iff (ofText?_eq_some_iff.1 hi).1, isAfter,
    decide_eq_true_iff]

end

end Instant

end Overlay
