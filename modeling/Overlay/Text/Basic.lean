/-!
Texts are lists of characters. Everything that is read from a description is
such a list, so that each reader below is a recursion on the text itself.
Strings appear only where text enters and leaves the library.
-/

namespace Overlay

abbrev Text := List Char

namespace Text

/-- What all characters of a text satisfy is decided along the text, also where
there is an instance that tries all characters. -/
instance (priority := 2000) (p : Char → Prop) [DecidablePred p] (t : Text) :
    Decidable (∀ c ∈ t, p c) := List.decidableBAll p t

/-- What follows `start` in a text that begins with it. -/
def dropPrefix? : Text → Text → Option Text
  | [], t => some t
  | _ :: _, [] => none
  | p :: ps, c :: cs => if p = c then dropPrefix? ps cs else none

/-- What precedes `ending` in a text that ends with it. -/
def dropSuffix? (ending t : Text) : Option Text :=
  (dropPrefix? ending.reverse t.reverse).map List.reverse

/-- The text without its first and its last character. -/
def inner (t : Text) : Text := t.tail.dropLast

theorem dropPrefix?_append (p t : Text) : dropPrefix? p (p ++ t) = some t := by
  induction p with
  | nil => cases t <;> rfl
  | cons c p ih => simp [dropPrefix?, ih]

theorem eq_append_of_dropPrefix? {p t r : Text} (h : dropPrefix? p t = some r) :
    t = p ++ r := by
  induction p generalizing t with
  | nil => simpa [dropPrefix?] using h
  | cons c p ih =>
      cases t with
      | nil => simp [dropPrefix?] at h
      | cons d t =>
          simp only [dropPrefix?] at h
          split at h
          · next hcd => rw [ih h, hcd]; rfl
          · cases h

theorem dropPrefix?_eq_some_iff {p t r : Text} : dropPrefix? p t = some r ↔ t = p ++ r :=
  ⟨eq_append_of_dropPrefix?, fun h => h ▸ dropPrefix?_append p r⟩

theorem dropSuffix?_eq_some_iff {ending t r : Text} :
    dropSuffix? ending t = some r ↔ t = r ++ ending := by
  simp only [dropSuffix?, Option.map_eq_some_iff, dropPrefix?_eq_some_iff]
  constructor
  · rintro ⟨front, hfront, rfl⟩
    simpa using congrArg List.reverse hfront
  · rintro rfl
    exact ⟨r.reverse, by simp, List.reverse_reverse r⟩

end Text

end Overlay
