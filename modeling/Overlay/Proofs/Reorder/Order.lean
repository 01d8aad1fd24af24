import Overlay.Proofs.Outcome
import Mathlib.Data.List.Perm.Basic

/-!
Lists in another order. Some members of a list belong to a series; a list of the
same members keeps the order if the members of each series follow one another as
they did. What is read from the members of such lists, or chosen from them, is in
such an order again.
-/

namespace Overlay

section

variable {α β κ ε : Type} [DecidableEq κ] {series : α → Option κ} {series' : β → Option κ}

/-- Whether two lists have the same members, those of each series in one order. -/
structure SameOrder (series : α → Option κ) (xs ys : List α) : Prop where
  perm : xs.Perm ys
  kept : ∀ x ∈ xs, series x ≠ none →
    ys.filter (fun y => series y = series x) = xs.filter (fun y => series y = series x)

instance [DecidableEq α] (series : α → Option κ) (xs ys : List α) :
    Decidable (SameOrder series xs ys) :=
  decidable_of_iff (xs.Perm ys ∧ ∀ x ∈ xs, series x ≠ none →
      ys.filter (fun y => series y = series x) = xs.filter (fun y => series y = series x))
    ⟨fun h => ⟨h.1, h.2⟩, fun h => ⟨h.perm, h.kept⟩⟩

namespace SameOrder

theorem filter_eq {xs ys : List α} (h : SameOrder series xs ys) (k : κ) :
    ys.filter (fun y => series y = some k) = xs.filter (fun y => series y = some k) := by
  by_cases hk : ∃ x ∈ xs, series x = some k
  · obtain ⟨x, hx, hseries⟩ := hk
    rw [← hseries]
    exact h.kept x hx (by simp [hseries])
  · -- A series without members is empty in both lists.
    have hnone : ∀ x ∈ xs, ¬series x = some k := fun x hx hseries => hk ⟨x, hx, hseries⟩
    have hnone' : ∀ y ∈ ys, ¬series y = some k := fun y hy => hnone y (h.perm.mem_iff.2 hy)
    rw [List.filter_eq_nil_iff.2 (by simpa using hnone'),
      List.filter_eq_nil_iff.2 (by simpa using hnone)]

theorem of_filter_eq {xs ys : List α} (hperm : xs.Perm ys)
    (h : ∀ k, ys.filter (fun y => series y = some k) = xs.filter (fun y => series y = some k)) :
    SameOrder series xs ys := by
  refine ⟨hperm, fun x _ hx => ?_⟩
  obtain ⟨k, hk⟩ := Option.ne_none_iff_exists'.1 hx
  rw [hk]
  exact h k

end SameOrder

/-- Members from which something is chosen all pass a test. -/
theorem filterMap_filter_of_imp {p : α → Bool} {g : α → Option β} {xs : List α}
    (hg : ∀ {x z}, g x = some z → p x = true) : (xs.filter p).filterMap g = xs.filterMap g := by
  rw [List.filterMap_filter]
  refine List.filterMap_congr fun x _ => ?_
  cases hx : g x with
  | none => split <;> rfl
  | some z => rw [if_pos (hg hx)]

/-- What is chosen passes a test just if the member passes one. -/
theorem filter_filterMap_of_eq {p : α → Bool} {q : β → Bool} {g : α → Option β} {xs : List α}
    (hg : ∀ {x z}, g x = some z → q z = p x) :
    (xs.filterMap g).filter q = (xs.filter p).filterMap g := by
  rw [List.filter_filterMap, List.filterMap_filter]
  refine List.filterMap_congr fun x _ => ?_
  cases hx : g x with
  | none => split <;> rfl
  | some z => rw [Option.filter_some, hg hx]

/-- What is read from the members of a list that pass a test. -/
theorem Except.mapM_filter {f : α → Except ε β} {p : α → Bool} {q : β → Bool} {xs : List α}
    {zs : List β} (hf : ∀ {x z}, f x = .ok z → q z = p x) (h : xs.mapM f = .ok zs) :
    (xs.filter p).mapM f = .ok (zs.filter q) := by
  induction xs generalizing zs with
  | nil =>
      cases h
      rfl
  | cons x xs ih =>
      obtain ⟨z, zs, hx, hxs, rfl⟩ := mapM_cons_eq_ok_iff.1 h
      have hq := hf hx
      cases hp : p x with
      | true =>
          rw [hp] at hq
          rw [List.filter_cons_of_pos hp, List.filter_cons_of_pos hq]
          exact mapM_cons_eq_ok_iff.2 ⟨z, _, hx, ih hxs, rfl⟩
      | false =>
          rw [hp] at hq
          rw [List.filter_cons_of_neg (by simp [hp]), List.filter_cons_of_neg (by simp [hq])]
          exact ih hxs

theorem Except.mapM_perm {f : α → Except ε β} {xs ys : List α} {zs : List β} (h : xs.Perm ys)
    (hzs : xs.mapM f = .ok zs) : ∃ zs', ys.mapM f = .ok zs' ∧ zs.Perm zs' := by
  induction h generalizing zs with
  | nil => exact ⟨zs, hzs, .refl zs⟩
  | cons x _ ih =>
      obtain ⟨z, zs, hx, hxs, rfl⟩ := mapM_cons_eq_ok_iff.1 hzs
      obtain ⟨zs', hys, hperm⟩ := ih hxs
      exact ⟨z :: zs', mapM_cons_eq_ok_iff.2 ⟨z, zs', hx, hys, rfl⟩, hperm.cons z⟩
  | swap x y xs =>
      obtain ⟨w, _, hy, hrest, rfl⟩ := mapM_cons_eq_ok_iff.1 hzs
      obtain ⟨z, zs, hx, hxs, rfl⟩ := mapM_cons_eq_ok_iff.1 hrest
      refine ⟨z :: w :: zs, ?_, .swap z w zs⟩
      exact mapM_cons_eq_ok_iff.2 ⟨z, w :: zs, hx, mapM_cons_eq_ok_iff.2 ⟨w, zs, hy, hxs, rfl⟩, rfl⟩
  | trans _ _ ih ih' =>
      obtain ⟨zs', hys, hperm⟩ := ih hzs
      obtain ⟨zs'', hys', hperm'⟩ := ih' hys
      exact ⟨zs'', hys', hperm.trans hperm'⟩

namespace SameOrder

theorem mapM {f : α → Except ε β} {xs ys : List α} {zs : List β} (h : SameOrder series xs ys)
    (hf : ∀ {x z}, f x = .ok z → series' z = series x) (hzs : xs.mapM f = .ok zs) :
    ∃ zs', ys.mapM f = .ok zs' ∧ SameOrder series' zs zs' := by
  obtain ⟨zs', hzs', hperm⟩ := Except.mapM_perm h.perm hzs
  refine ⟨zs', hzs', of_filter_eq hperm fun k => ?_⟩
  have hfilter {us : List α} {ws : List β} (hws : us.mapM f = .ok ws) :
      (us.filter fun x => series x = some k).mapM f =
        .ok (ws.filter fun z => series' z = some k) :=
    Except.mapM_filter (fun hz => by rw [hf hz]) hws
  have hys := hfilter hzs'
  rw [h.filter_eq k, hfilter hzs] at hys
  exact (Except.ok.inj hys).symm

theorem filterMap {g : α → Option β} {xs ys : List α} (h : SameOrder series xs ys)
    (hg : ∀ {x z}, g x = some z → series' z = series x) :
    SameOrder series' (xs.filterMap g) (ys.filterMap g) := by
  refine of_filter_eq (h.perm.filterMap g) fun k => ?_
  have hfilter (us : List α) : (us.filterMap g).filter (fun z => series' z = some k) =
      (us.filter fun x => series x = some k).filterMap g :=
    filter_filterMap_of_eq fun hz => by rw [hg hz]
  rw [hfilter, hfilter, h.filter_eq k]

/-- What is chosen from one series only stays as it is. -/
theorem filterMap_eq {g : α → Option β} {xs ys : List α} (h : SameOrder series xs ys) {k : κ}
    (hg : ∀ {x z}, g x = some z → series x = some k) : ys.filterMap g = xs.filterMap g := by
  have hfilter (us : List α) :
      (us.filter fun x => series x = some k).filterMap g = us.filterMap g :=
    filterMap_filter_of_imp fun hz => decide_eq_true (hg hz)
  rw [← hfilter, h.filter_eq k, hfilter]

end SameOrder

end

end Overlay
