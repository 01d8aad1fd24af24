import Overlay.Proofs.Outcome
import Overlay.Source.Unit

/-!
Readings that agree. Two readings agree when both give values that stand in some
relation, or when both fail for the same reason. Where they fail does not count,
and so the line at which an unclosed construct begins does not count either.
Agreement goes through sequences of steps and lists of computations.
-/

namespace Overlay

/-- Whether two causes are the same but for the line of an unclosed construct. -/
inductive Fault.SameReason : Fault → Fault → Prop
  | same (cause : Fault) : SameReason cause cause
  | unclosed (c : Construct) (first first' : Nat) :
      SameReason (.missingTerminator c first) (.missingTerminator c first')

/-- Whether two readings both succeed, with related values, or fail alike. -/
inductive Agree {α β : Type} (r : α → β → Prop) :
    Except Diagnostic α → Except Diagnostic β → Prop
  | ok {a : α} {b : β} : r a b → Agree r (.ok a) (.ok b)
  | error {d d' : Diagnostic} : d.cause.SameReason d'.cause → Agree r (.error d) (.error d')

namespace Agree

variable {α β α' β' : Type} {r : α → β → Prop} {s : α' → β' → Prop}

theorem exists_of_ok {x : Except Diagnostic α} {y : Except Diagnostic β} {a : α}
    (h : Agree r x y) (hx : x = .ok a) : ∃ b, y = .ok b ∧ r a b := by
  subst hx
  cases h with
  | ok hr => exact ⟨_, rfl, hr⟩

theorem mono {r' : α → β → Prop} {x : Except Diagnostic α} {y : Except Diagnostic β}
    (h : Agree r x y) (himp : ∀ {a b}, x = .ok a → y = .ok b → r a b → r' a b) :
    Agree r' x y := by
  cases h with
  | ok hr => exact .ok (himp rfl rfl hr)
  | error hcause => exact .error hcause

theorem bind {x : Except Diagnostic α} {y : Except Diagnostic β}
    {f : α → Except Diagnostic α'} {g : β → Except Diagnostic β'} (h : Agree r x y)
    (hnext : ∀ {a b}, r a b → Agree s (f a) (g b)) : Agree s (x >>= f) (y >>= g) := by
  cases h with
  | ok hr => exact hnext hr
  | error hcause => exact .error hcause

theorem map {x : Except Diagnostic α} {y : Except Diagnostic β} {f : α → α'} {g : β → β'}
    (h : Agree r x y) (hr : ∀ {a b}, r a b → s (f a) (g b)) : Agree s (x.map f) (y.map g) := by
  cases h with
  | ok hab => exact .ok (hr hab)
  | error hcause => exact .error hcause

theorem mapM {xs : List α} {ys : List β} {f : α → Except Diagnostic α'}
    {g : β → Except Diagnostic β'} (h : List.Forall₂ r xs ys)
    (hnext : ∀ {a b}, r a b → Agree s (f a) (g b)) :
    Agree (List.Forall₂ s) (xs.mapM f) (ys.mapM g) := by
  induction h with
  | nil => exact .ok .nil
  | cons hfirst _ ih =>
      rw [List.mapM_cons, List.mapM_cons]
      exact (hnext hfirst).bind fun hs => ih.bind fun hall => .ok (.cons hs hall)

theorem forM {xs : List α} {ys : List β} {f : α → Except Diagnostic Unit}
    {g : β → Except Diagnostic Unit} (h : List.Forall₂ r xs ys)
    (hnext : ∀ {a b}, r a b → Agree (· = ·) (f a) (g b)) :
    Agree (· = ·) (xs.forM f) (ys.forM g) := by
  induction h with
  | nil => exact .ok rfl
  | cons hfirst _ ih => exact (hnext hfirst).bind fun _ => ih

/-- What is read from two units alike is placed at each of them. -/
theorem locate {u u' : SourceUnit} {x : Except Fault α} {f : α → β} (hr : ∀ a, r a (f a)) :
    Agree r (u.locate x) (u'.locate (x.map f)) := by
  cases x with
  | ok a => exact .ok (hr a)
  | error cause => exact .error (.same cause)

end Agree

end Overlay
