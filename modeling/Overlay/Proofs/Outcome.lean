import Mathlib.Data.List.Forall2
import Overlay.Outcome

/-!
Computations that may fail, seen from their outcome. A sequence of steps succeeds
exactly when each of its steps does, and a list of computations when each of its
members does; what fails in them is one of the steps. These are the inversions
that every proof about a reader begins with.
-/

namespace Overlay

theorem forall₂_exists_of_mem_right {α β : Type} {r : α → β → Prop} {xs : List α} {ys : List β}
    {y : β} (h : List.Forall₂ r xs ys) (hy : y ∈ ys) : ∃ x ∈ xs, r x y := by
  induction h with
  | nil => cases hy
  | cons hr _ ih =>
      rcases List.mem_cons.1 hy with rfl | hy
      · exact ⟨_, List.mem_cons_self, hr⟩
      · obtain ⟨x, hx, hxy⟩ := ih hy
        exact ⟨x, List.mem_cons_of_mem _ hx, hxy⟩

theorem forall₂_exists_of_mem_left {α β : Type} {r : α → β → Prop} {xs : List α} {ys : List β}
    {x : α} (h : List.Forall₂ r xs ys) (hx : x ∈ xs) : ∃ y ∈ ys, r x y :=
  forall₂_exists_of_mem_right h.flip hx

theorem exists_forall₂_of_forall_mem {α β : Type} {r : α → β → Prop} {xs : List α}
    (h : ∀ x ∈ xs, ∃ y, r x y) : ∃ ys, List.Forall₂ r xs ys := by
  induction xs with
  | nil => exact ⟨[], .nil⟩
  | cons x xs ih =>
      obtain ⟨⟨y, hy⟩, hxs⟩ := List.forall_mem_cons.1 h
      obtain ⟨ys, hys⟩ := ih hxs
      exact ⟨y :: ys, .cons hy hys⟩

theorem forall₂_of_mem_left {α β : Type} {r s : α → β → Prop} {xs : List α} {ys : List β}
    (h : List.Forall₂ r xs ys) (himp : ∀ x ∈ xs, ∀ y, r x y → s x y) : List.Forall₂ s xs ys := by
  induction h with
  | nil => exact .nil
  | cons hr _ ih =>
      exact .cons (himp _ List.mem_cons_self _ hr)
        (ih fun x hx => himp x (List.mem_cons_of_mem _ hx))

theorem map_eq_of_forall₂ {α α' β : Type} {r : α → α' → Prop} {f : α → β} {g : α' → β}
    {xs : List α} {ys : List α'} (h : List.Forall₂ r xs ys) (hr : ∀ {x y}, r x y → g y = f x) :
    ys.map g = xs.map f := by
  induction h with
  | nil => rfl
  | cons hfirst _ ih => rw [List.map_cons, List.map_cons, ih, hr hfirst]

theorem ne_nil_of_forall₂ {α β : Type} {r : α → β → Prop} {xs : List α} {ys : List β}
    (h : List.Forall₂ r xs ys) (hne : xs ≠ []) : ys ≠ [] := by
  cases h with
  | nil => exact absurd rfl hne
  | cons _ _ => exact List.cons_ne_nil _ _

theorem forall₂_concat_left_iff {α β : Type} {r : α → β → Prop} {xs : List α} {x : α}
    {zs : List β} : List.Forall₂ r (xs ++ [x]) zs ↔
      ∃ ys y, List.Forall₂ r xs ys ∧ r x y ∧ zs = ys ++ [y] := by
  constructor
  · intro h
    induction xs generalizing zs with
    | nil =>
        obtain ⟨y, _, hy, hnil, rfl⟩ := List.forall₂_cons_left_iff.1 h
        cases hnil
        exact ⟨[], y, .nil, hy, rfl⟩
    | cons x' xs ih =>
        obtain ⟨y', _, hy', hrest, rfl⟩ := List.forall₂_cons_left_iff.1 h
        obtain ⟨ys, y, hys, hy, rfl⟩ := ih hrest
        exact ⟨y' :: ys, y, .cons hy' hys, hy, rfl⟩
  · rintro ⟨ys, y, hys, hy, rfl⟩
    exact List.rel_append hys (.cons hy .nil)

namespace Except

variable {ε α β : Type}

@[simp] theorem ok_bind (a : α) (f : α → Except ε β) : (Except.ok a >>= f) = f a := rfl

@[simp] theorem map_ok (f : α → β) (a : α) : (Except.ok a : Except ε α).map f = .ok (f a) := rfl

@[simp] theorem map_error (f : α → β) (e : ε) :
    (Except.error e : Except ε α).map f = .error e := rfl

theorem map_bind {γ : Type} (x : Except ε α) (f : α → Except ε β) (g : β → γ) :
    (x >>= f).map g = x >>= fun a => (f a).map g := by
  cases x <;> rfl

@[simp] theorem map_pure (f : α → β) (a : α) :
    (pure a : Except ε α).map f = (pure (f a) : Except ε β) := rfl

theorem mapM_cons_eq_ok_iff {f : α → Except ε β} {x : α} {xs : List α} {zs : List β} :
    (x :: xs).mapM f = .ok zs ↔ ∃ y ys, f x = .ok y ∧ xs.mapM f = .ok ys ∧ zs = y :: ys := by
  simp only [List.mapM_cons, bind_eq_ok_iff, pure_eq_ok_iff]
  constructor
  · rintro ⟨y, hy, ys, hys, rfl⟩
    exact ⟨y, ys, hy, hys, rfl⟩
  · rintro ⟨y, ys, hy, hys, rfl⟩
    exact ⟨y, hy, ys, hys, rfl⟩

/-- A list of computations succeeds when each of them does. -/
theorem mapM_eq_ok_iff {f : α → Except ε β} {xs : List α} {ys : List β} :
    xs.mapM f = .ok ys ↔ List.Forall₂ (fun x y => f x = .ok y) xs ys := by
  induction xs generalizing ys with
  | nil =>
      rw [List.mapM_nil, pure_eq_ok_iff, List.forall₂_nil_left_iff]
      exact eq_comm
  | cons x xs ih =>
      simp only [mapM_cons_eq_ok_iff, List.forall₂_cons_left_iff, ih]

/-- Computations that agree member by member succeed on the whole list alike. -/
theorem mapM_of_forall₂ {α' β' : Type} {r : α → α' → Prop} {s : β → β' → Prop}
    {f : α → Except ε β} {g : α' → Except ε β'} {xs : List α} {ys : List α'} {zs : List β}
    (h : List.Forall₂ r xs ys) (hf : xs.mapM f = .ok zs)
    (hstep : ∀ {x y z}, r x y → f x = .ok z → ∃ w, g y = .ok w ∧ s z w) :
    ∃ ws, ys.mapM g = .ok ws ∧ List.Forall₂ s zs ws := by
  induction h generalizing zs with
  | nil =>
      rw [List.mapM_nil, pure_eq_ok_iff] at hf
      exact ⟨[], rfl, hf ▸ .nil⟩
  | cons hfirst _ ih =>
      obtain ⟨z, zs, hz, hzs, rfl⟩ := mapM_cons_eq_ok_iff.1 hf
      obtain ⟨w, hw, hzw⟩ := hstep hfirst hz
      obtain ⟨ws, hws, hall⟩ := ih hzs
      exact ⟨w :: ws, mapM_cons_eq_ok_iff.2 ⟨w, ws, hw, hws, rfl⟩, .cons hzw hall⟩

theorem forM_eq_ok_iff {f : α → Except ε Unit} {xs : List α} {x : Unit} :
    xs.forM f = .ok x ↔ ∀ a ∈ xs, f a = .ok () := by
  induction xs with
  | nil => simp [pure, Except.pure]
  | cons a xs ih =>
      rw [List.forM, bind_eq_ok_iff]
      simp only [List.mem_cons, forall_eq_or_imp, ih]
      constructor
      · rintro ⟨_, ha, hrest⟩
        exact ⟨ha, hrest⟩
      · rintro ⟨ha, hrest⟩
        exact ⟨(), ha, hrest⟩

/-- Every result of a list of computations comes from one of them. -/
theorem exists_of_mem_mapM {f : α → Except ε β} {xs : List α} {ys : List β} {y : β}
    (h : xs.mapM f = .ok ys) (hy : y ∈ ys) : ∃ x ∈ xs, f x = .ok y :=
  forall₂_exists_of_mem_right (r := fun x y => f x = .ok y) (mapM_eq_ok_iff.1 h) hy

/-- What each computation keeps of its argument, the list keeps of its arguments. -/
theorem map_eq_of_mapM {γ : Type} {f : α → Except ε β} {g : β → γ} {k : α → γ} {xs : List α}
    {ys : List β} (h : xs.mapM f = .ok ys) (hkeep : ∀ {x y}, f x = .ok y → g y = k x) :
    ys.map g = xs.map k := by
  have hall := mapM_eq_ok_iff.1 h
  clear h
  induction hall with
  | nil => rfl
  | cons hfirst _ ih => rw [List.map_cons, List.map_cons, hkeep hfirst, ih]

/-- What each step of a fold keeps, the whole fold keeps. -/
theorem holds_of_foldlM {P : β → Prop} {step : β → α → Except ε β} {xs : List α} {b c : β}
    (h : xs.foldlM step b = .ok c) (hb : P b)
    (hstep : ∀ {b x c}, step b x = .ok c → P b → P c) : P c := by
  induction xs generalizing b with
  | nil =>
      rw [List.foldlM_nil, pure_eq_ok_iff] at h
      exact h ▸ hb
  | cons x xs ih =>
      obtain ⟨d, hd, h⟩ := bind_eq_ok_iff.1 h
      exact ih h (hstep hd hb)

/-! Results that were computed. -/

theorem toOption_eq_some_iff {x : Except ε α} {a : α} : x.toOption = some a ↔ x = .ok a := by
  cases x <;> simp [Except.toOption]

theorem exists_ok_of_isSome {x : Except ε α} (h : x.toOption.isSome = true) : ∃ a, x = .ok a := by
  obtain ⟨a, ha⟩ := Option.isSome_iff_exists.1 h
  exact ⟨a, toOption_eq_some_iff.1 ha⟩

theorem exists_ok_of_map {x : Except ε α} {f : α → β} {b : β} (h : x.toOption.map f = some b) :
    ∃ a, x = .ok a ∧ f a = b := by
  obtain ⟨a, ha, hf⟩ := Option.map_eq_some_iff.1 h
  exact ⟨a, toOption_eq_some_iff.1 ha, hf⟩

/-! Failures. -/

theorem bind_eq_error_iff {x : Except ε α} {f : α → Except ε β} {e : ε} :
    x >>= f = .error e ↔ x = .error e ∨ ∃ a, x = .ok a ∧ f a = .error e := by
  cases x <;> simp [bind, Except.bind]

theorem map_eq_error_iff {f : α → β} {x : Except ε α} {e : ε} :
    x.map f = .error e ↔ x = .error e := by
  cases x <;> simp [Except.map]

theorem exists_of_mapM_error {f : α → Except ε β} {xs : List α} {e : ε}
    (h : xs.mapM f = .error e) : ∃ x ∈ xs, f x = .error e := by
  induction xs with
  | nil => cases h
  | cons x xs ih =>
      rw [List.mapM_cons, bind_eq_error_iff] at h
      rcases h with hfirst | ⟨_, -, h⟩
      · exact ⟨x, List.mem_cons_self, hfirst⟩
      · rcases bind_eq_error_iff.1 h with hrest | ⟨_, -, hpure⟩
        · obtain ⟨y, hy, herror⟩ := ih hrest
          exact ⟨y, List.mem_cons_of_mem _ hy, herror⟩
        · cases hpure

theorem exists_of_forM_error {f : α → Except ε Unit} {xs : List α} {e : ε}
    (h : xs.forM f = .error e) : ∃ x ∈ xs, f x = .error e := by
  induction xs with
  | nil => cases h
  | cons x xs ih =>
      rw [List.forM, bind_eq_error_iff] at h
      rcases h with hfirst | ⟨_, -, hrest⟩
      · exact ⟨x, List.mem_cons_self, hfirst⟩
      · obtain ⟨y, hy, herror⟩ := ih hrest
        exact ⟨y, List.mem_cons_of_mem _ hy, herror⟩

end Except

/-- Whether all failures of a computation have a property. -/
def FailsOnly {ε α : Type} (P : ε → Prop) (x : Except ε α) : Prop := ∀ e, x = .error e → P e

namespace FailsOnly

variable {ε α β : Type} {P Q : ε → Prop}

theorem ok (a : α) : FailsOnly P (.ok a : Except ε α) := by
  intro e he
  cases he

theorem error {e : ε} (h : P e) : FailsOnly P (.error e : Except ε α) := by
  intro e' heq
  cases heq
  exact h

theorem of_ok {x : Except ε α} (h : ∃ a, x = .ok a) : FailsOnly P x := by
  obtain ⟨a, rfl⟩ := h
  exact ok a

theorem mono {x : Except ε α} (h : FailsOnly P x) (himp : ∀ e, P e → Q e) : FailsOnly Q x :=
  fun e he => himp e (h e he)

theorem bind {x : Except ε α} {f : α → Except ε β} (h : FailsOnly P x)
    (hnext : ∀ a, x = .ok a → FailsOnly P (f a)) : FailsOnly P (x >>= f) := by
  intro e he
  rcases Except.bind_eq_error_iff.1 he with hx | ⟨a, ha, hfa⟩
  · exact h e hx
  · exact hnext a ha e hfa

theorem map {x : Except ε α} (f : α → β) (h : FailsOnly P x) : FailsOnly P (x.map f) :=
  fun e he => h e (Except.map_eq_error_iff.1 he)

theorem mapM {xs : List α} {f : α → Except ε β} (h : ∀ a ∈ xs, FailsOnly P (f a)) :
    FailsOnly P (xs.mapM f) := by
  intro e he
  obtain ⟨a, ha, hfa⟩ := Except.exists_of_mapM_error he
  exact h a ha e hfa

theorem forM {xs : List α} {f : α → Except ε Unit} (h : ∀ a ∈ xs, FailsOnly P (f a)) :
    FailsOnly P (xs.forM f) := by
  intro e he
  obtain ⟨a, ha, hfa⟩ := Except.exists_of_forM_error he
  exact h a ha e hfa

theorem foldlM {xs : List α} {f : β → α → Except ε β} {b : β}
    (h : ∀ a ∈ xs, ∀ b, FailsOnly P (f b a)) : FailsOnly P (xs.foldlM f b) := by
  induction xs generalizing b with
  | nil => exact ok b
  | cons a xs ih =>
      rw [List.foldlM_cons]
      exact (h a List.mem_cons_self b).bind fun c _ =>
        ih fun a' ha' => h a' (List.mem_cons_of_mem a ha')

end FailsOnly

end Overlay
