import Overlay.Text.Basic

/-!
Maps from texts, as lists of entries in strictly increasing key order. The
order is the order of code points. Two maps with the same entries are equal,
whatever the order in which the entries were added.
-/

namespace Overlay

/-- Whether the keys of a list of entries are strictly increasing. -/
def KeysIncrease {α : Type} (entries : List (Text × α)) : Prop :=
  entries.Pairwise fun a b => a.1 < b.1

structure Keyed (α : Type) where
  entries : List (Text × α)
  ordered : KeysIncrease entries

namespace Keyed

variable {α : Type}

@[ext] theorem ext {a b : Keyed α} (h : a.entries = b.entries) : a = b := by
  cases a
  cases b
  cases h
  rfl

instance [DecidableEq α] : DecidableEq (Keyed α) := fun a b =>
  if h : a.entries = b.entries then isTrue (ext h) else isFalse fun e => h (e ▸ rfl)

/-- Changes the value under a key. The function is given the present value,
if there is one. -/
def updateEntries (key : Text) (f : Option α → α) : List (Text × α) → List (Text × α)
  | [] => [(key, f none)]
  | (k, v) :: rest =>
    if key < k then (key, f none) :: (k, v) :: rest
    else if key = k then (key, f (some v)) :: rest
    else (k, v) :: updateEntries key f rest

theorem lt_of_not_lt_of_ne {a b : Text} (h : ¬a < b) (hne : a ≠ b) : b < a := by
  rcases Std.lt_trichotomy a b with hlt | heq | hgt
  · exact absurd hlt h
  · exact absurd heq hne
  · exact hgt

theorem mem_updateEntries {key : Text} {f : Option α → α} {entries : List (Text × α)}
    {e : Text × α} (h : e ∈ updateEntries key f entries) : e.1 = key ∨ e ∈ entries := by
  induction entries with
  | nil =>
      simp only [updateEntries, List.mem_singleton] at h
      exact .inl (by rw [h])
  | cons x rest ih =>
      simp only [updateEntries] at h
      split at h
      · rcases List.mem_cons.1 h with h | h
        · exact .inl (by rw [h])
        · exact .inr h
      · split at h
        · rcases List.mem_cons.1 h with h | h
          · exact .inl (by rw [h])
          · exact .inr (List.mem_cons_of_mem _ h)
        · rcases List.mem_cons.1 h with h | h
          · exact .inr (by rw [h]; exact List.mem_cons_self)
          · exact (ih h).imp id (List.mem_cons_of_mem _)

theorem keysIncrease_updateEntries (key : Text) (f : Option α → α)
    {entries : List (Text × α)} (h : KeysIncrease entries) :
    KeysIncrease (updateEntries key f entries) := by
  induction entries with
  | nil => exact List.pairwise_singleton _ _
  | cons x rest ih =>
      obtain ⟨hx, hrest⟩ := List.pairwise_cons.1 h
      simp only [updateEntries]
      split
      · next hlt =>
        refine List.pairwise_cons.2 ⟨fun e he => ?_, h⟩
        rcases List.mem_cons.1 he with rfl | he
        · exact hlt
        · exact List.lt_trans hlt (hx e he)
      · next hnlt =>
        split
        · next heq =>
          exact List.pairwise_cons.2 ⟨fun e he => heq ▸ hx e he, hrest⟩
        · next hne =>
          refine List.pairwise_cons.2 ⟨fun e he => ?_, ih hrest⟩
          rcases mem_updateEntries he with hkey | he
          · exact hkey ▸ lt_of_not_lt_of_ne hnlt hne
          · exact hx e he

def empty : Keyed α := ⟨[], List.Pairwise.nil⟩

def update (m : Keyed α) (key : Text) (f : Option α → α) : Keyed α :=
  ⟨updateEntries key f m.entries, keysIncrease_updateEntries key f m.ordered⟩

/-- Adds an entry; an earlier value under the same key is replaced. -/
def insert (m : Keyed α) (key : Text) (value : α) : Keyed α := m.update key fun _ => value

def find? (m : Keyed α) (key : Text) : Option α := m.entries.lookup key

def contains (m : Keyed α) (key : Text) : Bool := (m.find? key).isSome

/-- The map of a list of entries; of several with one key the last counts. -/
def ofList (entries : List (Text × α)) : Keyed α :=
  entries.foldl (fun m e => m.insert e.1 e.2) empty

def keys (m : Keyed α) : List Text := m.entries.map Prod.fst

/-- The map with each value changed. -/
def mapValues {β : Type} (f : α → β) (m : Keyed α) : Keyed β :=
  { entries := m.entries.map fun e => (e.1, f e.2)
    ordered := by
      have := m.ordered
      simpa only [KeysIncrease, List.pairwise_map] using this }

/-- Texts in increasing order, each once. -/
def distinct (ts : List Text) : List Text := (ofList (ts.map fun t => (t, ()))).keys

end Keyed

end Overlay
