import Overlay.Keyed
import Mathlib.Data.List.Basic

/-!
Maps seen through look-up. An update changes the value under its own key and
no other, the keys of a map are those under which something is found, and an
entry is listed exactly when it is found. So two maps are the same when the same
is found in them, and the union of two maps is known by what is found in each.
-/

namespace Overlay.Keyed

variable {α : Type}

theorem lookup_cons (key : Text) (e : Text × α) (entries : List (Text × α)) :
    (e :: entries).lookup key = if key = e.1 then some e.2 else entries.lookup key := by
  obtain ⟨k, v⟩ := e
  rw [List.lookup_cons]
  by_cases h : key = k
  · rw [if_pos h, beq_iff_eq.2 h]
  · rw [if_neg h, beq_eq_false_iff_ne.2 h]

theorem lookup_eq_none_of_lt {key : Text} {entries : List (Text × α)}
    (h : ∀ e ∈ entries, key < e.1) : entries.lookup key = none := by
  induction entries with
  | nil => rfl
  | cons e entries ih =>
      have hne : key ≠ e.1 := fun heq => absurd (h e List.mem_cons_self) (heq ▸ List.lt_irrefl key)
      rw [lookup_cons, if_neg hne]
      exact ih fun e he => h e (List.mem_cons_of_mem _ he)

theorem lookup_updateEntries (key : Text) (f : Option α → α) {entries : List (Text × α)}
    (h : KeysIncrease entries) (k : Text) :
    (updateEntries key f entries).lookup k =
      if k = key then some (f (entries.lookup key)) else entries.lookup k := by
  induction entries with
  | nil =>
      simp only [updateEntries, lookup_cons, List.lookup_nil]
  | cons e rest ih =>
      obtain ⟨he, hrest⟩ := List.pairwise_cons.1 h
      simp only [updateEntries]
      split
      · next hlt =>
        -- The new entry comes before all greater keys, so the key is not among them.
        have hnone : (e :: rest).lookup key = none := by
          refine lookup_eq_none_of_lt fun e' he' => ?_
          rcases List.mem_cons.1 he' with rfl | he'
          · exact hlt
          · exact List.lt_trans hlt (he e' he')
        rw [lookup_cons, hnone]
      · split
        · next heq =>
          subst heq
          by_cases hk : k = e.1 <;> simp [lookup_cons, hk]
        · next hne =>
          rw [lookup_cons, ih hrest]
          by_cases hk : k = e.1
          · subst hk
            simp [lookup_cons, Ne.symm hne]
          · simp [lookup_cons, hk, hne]

theorem find?_update (m : Keyed α) (key : Text) (f : Option α → α) (k : Text) :
    (m.update key f).find? k = if k = key then some (f (m.find? key)) else m.find? k :=
  lookup_updateEntries key f m.ordered k

theorem find?_insert (m : Keyed α) (key : Text) (value : α) (k : Text) :
    (m.insert key value).find? k = if k = key then some value else m.find? k :=
  find?_update m key _ k

@[simp] theorem find?_empty (k : Text) : (empty : Keyed α).find? k = none := rfl

theorem find?_mapValues {β : Type} (f : α → β) (m : Keyed α) (key : Text) :
    (m.mapValues f).find? key = (m.find? key).map f := by
  show (m.entries.map fun e => (e.1, f e.2)).lookup key = (m.entries.lookup key).map f
  induction m.entries with
  | nil => rfl
  | cons e entries ih =>
      rw [List.map_cons, lookup_cons, lookup_cons, ih]
      split
      · rfl
      · rfl

theorem mem_entries_iff {m : Keyed α} {key : Text} {value : α} :
    (key, value) ∈ m.entries ↔ m.find? key = some value := by
  obtain ⟨entries, h⟩ := m
  simp only [find?]
  induction entries with
  | nil => simp
  | cons e entries ih =>
      obtain ⟨he, hentries⟩ := List.pairwise_cons.1 h
      have ih := ih hentries
      rw [List.mem_cons, lookup_cons]
      by_cases hkey : key = e.1
      · subst hkey
        have hnot : (e.1, value) ∉ entries := fun hmem =>
          List.lt_irrefl e.1 (he (e.1, value) hmem)
        simp [hnot, Prod.ext_iff, eq_comm]
      · simp [hkey, ih, Prod.ext_iff]

/-- Two maps in which the same is found under each key are the same. -/
theorem ext_find? {a b : Keyed α} (h : ∀ key, a.find? key = b.find? key) : a = b := by
  have hnodup (m : Keyed α) : m.entries.Nodup := by
    refine List.Pairwise.imp (fun {e e'} hlt heq => ?_) m.ordered
    subst heq
    exact List.lt_irrefl e.1 hlt
  have hperm : a.entries.Perm b.entries := by
    refine (List.perm_ext_iff_of_nodup (hnodup a) (hnodup b)).2 fun ⟨key, value⟩ => ?_
    rw [mem_entries_iff, mem_entries_iff, h]
  refine ext (hperm.eq_of_pairwise (fun e e' _ _ hlt hgt => ?_) a.ordered b.ordered)
  exact absurd (List.lt_trans hlt hgt) (List.lt_irrefl e.1)

theorem mem_keys_iff {m : Keyed α} {key : Text} : key ∈ m.keys ↔ m.contains key = true := by
  simp only [keys, contains, Option.isSome_iff_exists, ← mem_entries_iff, List.mem_map,
    Prod.exists, exists_and_right, exists_eq_right]

theorem contains_insert (m : Keyed α) (key : Text) (value : α) (k : Text) :
    (m.insert key value).contains k = true ↔ k = key ∨ m.contains k = true := by
  simp only [contains, find?_insert]
  split <;> simp [*]

theorem contains_update (m : Keyed α) (key : Text) (f : Option α → α) (k : Text) :
    (m.update key f).contains k = true ↔ k = key ∨ m.contains k = true := by
  simp only [contains, find?_update]
  split <;> simp [*]

/-- A fold that updates under the key of each element has these keys, and
those of the map with which it began. -/
theorem contains_foldl {β : Type} {step : Keyed α → β → Keyed α} {key : β → Text}
    (hstep : ∀ m b k, (step m b).contains k = true ↔ k = key b ∨ m.contains k = true)
    (m : Keyed α) (bs : List β) (k : Text) :
    (bs.foldl step m).contains k = true ↔ (∃ b ∈ bs, key b = k) ∨ m.contains k = true := by
  induction bs generalizing m with
  | nil => simp
  | cons b bs ih =>
      rw [List.foldl_cons, ih, hstep]
      simp only [List.mem_cons, exists_eq_or_imp, or_assoc, eq_comm (a := k)]
      exact or_left_comm

/-- The list of distinct texts has the same members. -/
theorem mem_distinct {t : Text} {ts : List Text} : t ∈ distinct ts ↔ t ∈ ts := by
  rw [distinct, mem_keys_iff, ofList,
    contains_foldl (fun m (e : Text × Unit) k => contains_insert m e.1 e.2 k)]
  simp [contains]

/-- The entries of both maps. Under a key of both stands what `f` makes of the
two values. -/
def unionWith (f : α → α → α) (a b : Keyed α) : Keyed α :=
  b.entries.foldl (fun m e => m.update e.1 fun v => (v.map fun x => f x e.2).getD e.2) a

theorem find?_unionWith (f : α → α → α) (a b : Keyed α) (key : Text) :
    (a.unionWith f b).find? key = Option.merge f (a.find? key) (b.find? key) := by
  obtain ⟨entries, h⟩ := b
  show (unionWith f a ⟨entries, h⟩).find? key =
    Option.merge f (a.find? key) (entries.lookup key)
  unfold unionWith
  induction entries generalizing a with
  | nil =>
      rw [List.foldl_nil, List.lookup_nil]
      cases a.find? key <;> rfl
  | cons e entries ih =>
      obtain ⟨he, hentries⟩ := List.pairwise_cons.1 h
      rw [List.foldl_cons, ih _ hentries, find?_update, lookup_cons]
      by_cases hkey : key = e.1
      · -- The key of the first entry is that of no other.
        rw [if_pos hkey, if_pos hkey, hkey, lookup_eq_none_of_lt he]
        cases a.find? e.1 <;> rfl
      · rw [if_neg hkey, if_neg hkey]

/-! Maps of lists of entries. -/

theorem nodup_of_keysIncrease {entries : List (Text × α)} (h : KeysIncrease entries) :
    (entries.map Prod.fst).Nodup :=
  List.Pairwise.map _ (fun _ _ hlt heq => List.lt_irrefl _ (heq ▸ hlt)) h

theorem find?_foldl_insert {entries : List (Text × α)} (h : (entries.map Prod.fst).Nodup)
    (m : Keyed α) (key : Text) :
    (entries.foldl (fun m e => m.insert e.1 e.2) m).find? key =
      (entries.lookup key).or (m.find? key) := by
  induction entries generalizing m with
  | nil => rfl
  | cons e entries ih =>
      obtain ⟨hnew, hnodup⟩ := List.nodup_cons.1 h
      rw [List.foldl_cons, ih hnodup, find?_insert, lookup_cons]
      by_cases hkey : key = e.1
      · have hnone : entries.lookup key = none := by
          rw [List.lookup_eq_none_iff]
          intro e' he'
          rw [bne_iff_ne, hkey]
          exact fun heq => hnew (heq ▸ List.mem_map_of_mem he')
        rw [if_pos hkey, if_pos hkey, hnone]
        rfl
      · rw [if_neg hkey, if_neg hkey]

theorem find?_ofList {entries : List (Text × α)} (h : (entries.map Prod.fst).Nodup)
    (key : Text) : (ofList entries).find? key = entries.lookup key := by
  rw [ofList, find?_foldl_insert h, find?_empty, Option.or_none]

/-- Entries in key order are the entries of their map. -/
theorem entries_ofList {entries : List (Text × α)} (h : KeysIncrease entries) :
    (ofList entries).entries = entries := by
  have hsame : ofList entries = ⟨entries, h⟩ :=
    ext_find? fun key => find?_ofList (nodup_of_keysIncrease h) key
  rw [hsame]

theorem mem_of_mem_ofList {entries : List (Text × α)} {e : Text × α}
    (h : e ∈ (ofList entries).entries) : e ∈ entries := by
  have hfold : ∀ (es : List (Text × α)) (m : Keyed α),
      e ∈ (es.foldl (fun m e => m.insert e.1 e.2) m).entries → e ∈ es ∨ e ∈ m.entries := by
    intro es
    induction es with
    | nil => exact fun m hm => .inr hm
    | cons e' es ih =>
        intro m hm
        rcases ih _ hm with hm | hm
        · exact .inl (List.mem_cons_of_mem _ hm)
        · obtain ⟨key, value⟩ := e
          rw [mem_entries_iff, find?_insert] at hm
          split at hm
          · next hkey =>
            cases hm
            exact .inl (hkey ▸ List.mem_cons_self)
          · exact .inr (mem_entries_iff.2 hm)
  rcases hfold entries empty h with h | h
  · exact h
  · cases h

end Overlay.Keyed
