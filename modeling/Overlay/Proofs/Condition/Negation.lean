import Overlay.Proofs.Condition.Range
import Overlay.Proofs.Condition.Written

/-!
Negations and ranges of a leaf that was read. A test has no result exactly on data of
another kind than its own, and negation leaves the kind as it is. The two ends of a range
were found to be of one type when it was read, so its two comparisons have a result on the
same data; without this its negation would not be the alternative of the opposite ones.
-/

namespace Overlay

/-- The kinds of data that are tested. -/
inductive DataKind
  | number
  | text

def Json.kind? : Json → Option DataKind
  | .number _ => some .number
  | .string _ => some .text
  | _ => none

def Literal.kind : Literal → DataKind
  | .integer _ | .float _ => .number
  | .string _ => .text

/-- The kind of data that a test is for. The ends of a range are of one kind. -/
def Test.kind : Test → DataKind
  | .compare _ threshold => threshold.kind
  | .like _ => .text
  | .range low _ => low.kind
  | .negation test => test.kind

namespace Leaf

/-- Whether a record has the datum of a leaf, of the kind that is tested. -/
def Applies (l : Leaf) (record : Json) : Prop :=
  ∃ v, record.field? l.dataName = some v ∧ v.kind? = some l.test.kind

/-- What the tests of a leaf mean on a record: a negated comparison is the opposite one,
a range is its two comparisons, a negated range the alternative of their opposites, and
two negations are none. A leaf or its negation holds, and not both, if the leaf applies,
and neither of them otherwise. -/
structure Desugars (l : Leaf) (record : Json) : Prop where
  comparison : ∀ {sign threshold}, l.test = .negation (.compare sign threshold) →
    l.holds record = (⟨l.dataName, .compare sign.opposite threshold⟩ : Leaf).holds record
  range : ∀ {low high}, l.test = .range low high →
    (l.holds record = true ↔
      (⟨l.dataName, .compare .ge low⟩ : Leaf).holds record = true ∧
        (⟨l.dataName, .compare .le high⟩ : Leaf).holds record = true)
  negatedRange : ∀ {low high}, l.test = .negation (.range low high) →
    (l.holds record = true ↔
      (⟨l.dataName, .compare .lt low⟩ : Leaf).holds record = true ∨
        (⟨l.dataName, .compare .gt high⟩ : Leaf).holds record = true)
  doubled : ∀ depth, (negate^[depth + 2] l).holds record = (negate^[depth] l).holds record
  inner : ∀ {depth test}, l.test = Test.negation^[depth + 2] test →
    l.holds record = (⟨l.dataName, Test.negation^[depth] test⟩ : Leaf).holds record
  neither : l.holds record = false ∧ l.negate.holds record = false ↔ ¬ l.Applies record
  other : l.Applies record → l.negate.holds record = !l.holds record

end Leaf

section Kinds

theorem Json.compare?_eq_none_iff {v : Json} {t : Literal} :
    v.compare? t = none ↔ v.kind? ≠ some t.kind := by
  cases v with
  | number n =>
      cases n with
      | whole n =>
          cases t with
          | integer k =>
              cases hsigned : n.toInt64? <;> simp [compare?, kind?, Literal.kind, hsigned]
          | float x => simp [compare?, kind?, Literal.kind, Literal.asFloat?]
          | string s => simp [compare?, kind?, Literal.kind, Literal.asFloat?]
      | float x => cases t <;> simp [compare?, kind?, Literal.kind, Literal.asFloat?]
  | string s => cases t <;> simp [compare?, kind?, Literal.kind]
  | null | bool b | array items | object fields => simp [compare?, kind?]

theorem Literal.kind_eq_of_sameType {a b : Literal} (h : a.sameType b = true) :
    a.kind = b.kind := by
  cases a <;> cases b <;> first | rfl | cases h

namespace Test

theorem RangesInOrder.kind_eq {low high : Literal} (h : (Test.range low high).RangesInOrder) :
    low.kind = high.kind :=
  Literal.kind_eq_of_sameType (h low high .self).1

theorem RangesInOrder.of_negation {test : Test} (h : (Test.negation test).RangesInOrder) :
    test.RangesInOrder :=
  fun low high hrange => h low high (.negation hrange)

/-- A test has no result exactly on data of another kind. -/
theorem check_eq_none_iff {test : Test} (h : test.RangesInOrder) {v : Json} :
    test.check v = none ↔ v.kind? ≠ some test.kind := by
  induction test with
  | compare sign threshold => rw [check, Option.map_eq_none_iff, Json.compare?_eq_none_iff, kind]
  | like pattern => cases v <;> simp [check, Json.asText?, Json.kind?, kind]
  | range low high =>
      have hlow := Json.compare?_eq_none_iff (v := v) (t := low)
      have hhigh := Json.compare?_eq_none_iff (v := v) (t := high)
      rw [← h.kind_eq] at hhigh
      rw [kind, ← hlow]
      cases hl : v.compare? low with
      | none => simp [check, hl]
      | some a =>
          cases hh : v.compare? high with
          | none => exact absurd (hlow.2 (hhigh.1 hh)) (by simp [hl])
          | some b => simp [check, hl, hh]
  | negation test ih => rw [check, Option.map_eq_none_iff, ih h.of_negation, kind]

theorem check_negation_negation (test : Test) (v : Json) :
    (Test.negation (.negation test)).check v = test.check v := by
  simp [check, Function.comp_def]

theorem check_negation_compare (sign : Sign) (threshold : Literal) (v : Json) :
    (Test.negation (.compare sign threshold)).check v =
      (Test.compare sign.opposite threshold).check v := by
  simp [check, Function.comp_def, funext sign.accepts_opposite]

/-- A number of negations of two tests with the same results. -/
theorem check_iterate_negation {test test' : Test} {v : Json} (h : test.check v = test'.check v)
    (depth : Nat) :
    (Test.negation^[depth] test).check v = (Test.negation^[depth] test').check v := by
  induction depth with
  | zero => exact h
  | succ depth ih =>
      rw [Function.iterate_succ_apply', Function.iterate_succ_apply', check, check, ih]

theorem check_range_iff {low high : Literal} {v : Json} :
    (Test.range low high).check v = some true ↔
      (Test.compare .ge low).check v = some true ∧ (Test.compare .le high).check v = some true := by
  cases hl : v.compare? low <;> cases hh : v.compare? high <;> simp [check, hl, hh]

/-- Here the ends must be of one kind: with a result for one end only, the negated range
has none. -/
theorem check_negation_range_iff {low high : Literal} {v : Json} (h : low.kind = high.kind) :
    (Test.negation (.range low high)).check v = some true ↔
      (Test.compare .lt low).check v = some true ∨ (Test.compare .gt high).check v = some true := by
  have hlow := Json.compare?_eq_none_iff (v := v) (t := low)
  have hhigh := Json.compare?_eq_none_iff (v := v) (t := high)
  rw [← h, ← hlow] at hhigh
  cases hl : v.compare? low with
  | none => simp [check, hl, hhigh.2 hl]
  | some a =>
      cases hh : v.compare? high with
      | none => exact absurd (hhigh.1 hh) (by simp [hl])
      | some b => cases a <;> cases b <;> simp [check, hl, hh, Sign.accepts]

end Test

end Kinds

namespace Leaf

theorem holds_of_field? {l : Leaf} {record v : Json} (h : record.field? l.dataName = some v) :
    l.holds record = (l.test.check v).getD false := by
  rw [holds, h, Option.bind_some]

theorem holds_of_missing {l : Leaf} {record : Json} (h : record.field? l.dataName = none) :
    l.holds record = false := by
  rw [holds, h, Option.bind_none, Option.getD_none]

theorem holds_congr {l : Leaf} {test : Test} (h : ∀ v, l.test.check v = test.check v)
    (record : Json) : l.holds record = (⟨l.dataName, test⟩ : Leaf).holds record := by
  rw [holds, holds, funext h]

/-- A leaf holds exactly on a datum with a positive result. -/
theorem holds_iff {l : Leaf} {record : Json} : l.holds record = true ↔
    ∃ v, record.field? l.dataName = some v ∧ l.test.check v = some true := by
  cases h : record.field? l.dataName with
  | none => simp [holds_of_missing h]
  | some v => simp [holds_of_field? h, Option.getD_eq_iff]

theorem iterate_negate (l : Leaf) (depth : Nat) :
    negate^[depth] l = ⟨l.dataName, Test.negation^[depth] l.test⟩ := by
  induction depth with
  | zero => rfl
  | succ depth ih => rw [Function.iterate_succ_apply', ih, negate, Function.iterate_succ_apply']

theorem holds_iterate_negation (name : Text) (test : Test) (depth : Nat) (record : Json) :
    (⟨name, Test.negation^[depth + 2] test⟩ : Leaf).holds record =
      (⟨name, Test.negation^[depth] test⟩ : Leaf).holds record := by
  refine holds_congr (l := ⟨name, _⟩) (fun v => ?_) record
  exact Test.check_iterate_negation (Test.check_negation_negation test v) depth

theorem negate_holds_of_applies {l : Leaf} {record : Json} (h : l.test.RangesInOrder)
    (happlies : l.Applies record) : l.negate.holds record = !l.holds record := by
  obtain ⟨v, hv, hkind⟩ := happlies
  rw [holds_of_field? hv, holds_of_field? (l := l.negate) hv]
  cases hcheck : l.test.check v with
  | none => exact absurd hkind ((Test.check_eq_none_iff h).1 hcheck)
  | some b => simp [negate, Test.check, hcheck]

theorem holds_of_not_applies {l : Leaf} {record : Json} (h : l.test.RangesInOrder)
    (happlies : ¬ l.Applies record) : l.holds record = false := by
  cases hv : record.field? l.dataName with
  | none => exact holds_of_missing hv
  | some v =>
      have hnone := (Test.check_eq_none_iff h).2 fun hkind => happlies ⟨v, hv, hkind⟩
      rw [holds_of_field? hv, hnone, Option.getD_none]

theorem RangesInOrder.negate {l : Leaf} (h : l.test.RangesInOrder) :
    l.negate.test.RangesInOrder := by
  rintro low high ⟨⟩
  exact h low high ‹_›

/-- Neither a leaf nor its negation holds exactly if the leaf does not apply. -/
theorem neither_holds_iff {l : Leaf} {record : Json} (h : l.test.RangesInOrder) :
    l.holds record = false ∧ l.negate.holds record = false ↔ ¬ l.Applies record := by
  constructor
  · rintro ⟨hself, hother⟩ happlies
    rw [negate_holds_of_applies h happlies, hself] at hother
    cases hother
  · intro happlies
    -- The negation is for data of the same kind.
    have hnegate : ¬ l.negate.Applies record := happlies
    exact ⟨holds_of_not_applies h happlies, holds_of_not_applies (RangesInOrder.negate h) hnegate⟩

theorem desugars_of_rangesInOrder {l : Leaf} (h : l.test.RangesInOrder) (record : Json) :
    l.Desugars record where
  comparison htest := by
    refine holds_congr (fun v => ?_) record
    rw [htest, Test.check_negation_compare]
  range {low high} htest := by
    cases hv : record.field? l.dataName with
    | none => simp [holds_iff, hv]
    | some v => simp only [holds_iff, hv, Option.some.injEq, exists_eq_left', htest,
        Test.check_range_iff]
  negatedRange {low high} htest := by
    have hkind : low.kind = high.kind := (htest ▸ h).of_negation.kind_eq
    cases hv : record.field? l.dataName with
    | none => simp [holds_iff, hv]
    | some v => simp only [holds_iff, hv, Option.some.injEq, exists_eq_left', htest,
        Test.check_negation_range_iff hkind]
  doubled depth := by
    rw [iterate_negate, iterate_negate, holds_iterate_negation]
  inner {depth test} htest := by
    obtain ⟨name, _⟩ := l
    cases htest
    exact holds_iterate_negation name test depth record
  neither := neither_holds_iff h
  other := negate_holds_of_applies h

/-- Of a leaf that was read, the signs, ranges and negations mean on every record what
they say, also if the record lacks the datum, has one of another kind or is not an object
at all; and a leaf text after `not` and blanks is read as the negation. -/
theorem desugars_of_ofText {t : Text} {l : Leaf} (h : ofText t = .ok l) :
    (∀ b : Text, b ≠ [] → b.allBlank = true → '\n' ∉ t →
      ofText ("not".toList ++ b ++ t) = .ok l.negate) ∧
      ∀ record, l.Desugars record :=
  ⟨fun _ hne hb hline => ofText_not h hline hne hb,
    desugars_of_rangesInOrder (rangesInOrder_of_ofText h)⟩

theorem desugars_not_range :
    ofText "not range(a, 1, 2)".toList =
        .ok ⟨['a'], .negation (.range (.integer 1) (.integer 2))⟩ ∧
      ofText "not not range(a, 1, 2)".toList =
        .ok ⟨['a'], .negation (.negation (.range (.integer 1) (.integer 2)))⟩ ∧
      ∀ record, (⟨['a'], .negation (.range (.integer 1) (.integer 2))⟩ : Leaf).Desugars record := by
  have h : ofText "not range(a, 1, 2)".toList =
      .ok ⟨['a'], .negation (.range (.integer 1) (.integer 2))⟩ := by decide +kernel
  have hnot := (desugars_of_ofText h).1 [' '] (List.cons_ne_nil _ _) rfl (by decide)
  exact ⟨h, hnot, (desugars_of_ofText h).2⟩

end Leaf

end Overlay
