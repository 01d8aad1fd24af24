import Overlay.Proofs.Literal

/-!
Strings and their literals. A literal holds its string with a backslash before each
quote, and no other character is escaped, a backslash least of all. What makes this
unambiguous is that a quote closes the literal exactly when no backslash stands before
it: so every quote between the two outer ones has its backslash, and the string cannot
end in a backslash, as that would take up the closing quote.
-/

namespace Overlay

namespace Text

/-- A string with a backslash before each of its quotes. -/
def escapeQuotes : Text → Text
  | [] => []
  | c :: s => if c = '"' then '\\' :: '"' :: escapeQuotes s else c :: escapeQuotes s

/-- The literal of a string. -/
def literalOf (s : Text) : Text := '"' :: escapeQuotes s ++ ['"']

@[simp] theorem escapeQuotes_quote (s : Text) :
    escapeQuotes ('"' :: s) = '\\' :: '"' :: escapeQuotes s := rfl

theorem escapeQuotes_char {c : Char} (hc : c ≠ '"') (s : Text) :
    escapeQuotes (c :: s) = c :: escapeQuotes s := if_neg hc

theorem head?_escapeQuotes (s : Text) : (escapeQuotes s).head? ≠ some '"' := by
  cases s with
  | nil => nofun
  | cons c s =>
      by_cases hc : c = '"'
      · rw [hc, escapeQuotes_quote]
        simp
      · rw [escapeQuotes_char hc]
        simpa using hc

theorem unescape_char {c : Char} {t : Text} (hesc : c = '\\' → t.head? ≠ some '"') :
    unescape (c :: t) = c :: unescape t := by
  rw [unescape]
  rintro r rfl rfl
  exact hesc rfl rfl

theorem unescape_escapeQuotes (s : Text) : unescape (escapeQuotes s) = s := by
  induction s with
  | nil => rfl
  | cons c s ih =>
      by_cases hc : c = '"'
      · rw [hc, escapeQuotes_quote, unescape, ih]
      · rw [escapeQuotes_char hc, unescape_char fun _ => head?_escapeQuotes s, ih]

/-- Only a backslash at the end of the string would take up the closing quote. -/
theorem isBody_escapeQuotes {s : Text} (h : s.getLast? ≠ some '\\') :
    IsBody (escapeQuotes s) := by
  induction s with
  | nil => exact .nil
  | cons c s ih =>
      obtain ⟨hrest, hlast⟩ := getLast?_cons_ne_some_iff.1 h
      by_cases hc : c = '"'
      · rw [hc, escapeQuotes_quote]
        exact .escaped (ih hrest)
      · rw [escapeQuotes_char hc]
        refine .char hc (fun heq => ⟨fun hnil => ?_, head?_escapeQuotes s⟩) (ih hrest)
        have hs := unescape_escapeQuotes s
        rw [hnil] at hs
        exact hlast hs.symm heq

theorem escapeQuotes_unescape {body : Text} (h : IsBody body) :
    escapeQuotes (unescape body) = body ∧ (unescape body).getLast? ≠ some '\\' := by
  induction h with
  | nil => exact ⟨rfl, nofun⟩
  | escaped _ ih =>
      obtain ⟨hescape, hlast⟩ := ih
      refine ⟨by rw [unescape, escapeQuotes_quote, hescape], ?_⟩
      exact getLast?_cons_ne_some_iff.2 ⟨hlast, fun _ => by decide⟩
  | char hc hesc _ ih =>
      obtain ⟨hescape, hlast⟩ := ih
      rw [unescape_char fun heq => (hesc heq).2]
      refine ⟨by rw [escapeQuotes_char hc, hescape], getLast?_cons_ne_some_iff.2 ⟨hlast, ?_⟩⟩
      intro hnil heq
      rw [hnil] at hescape
      exact (hesc heq).1 hescape.symm

end Text

namespace ArgumentType

open Text

/-- A text is converted to a string exactly when it is the literal of that string, and
the strings that have a literal are those that do not end in a backslash. -/
theorem convert?_string_eq_some_iff {t : Text} {a : Argument} :
    string.convert? t = some a ↔
      ∃ s, a = .string s ∧ s.getLast? ≠ some '\\' ∧ t = literalOf s := by
  rw [convert?, Option.map_eq_some_iff]
  constructor
  · rintro ⟨s, hs, rfl⟩
    obtain ⟨body, hbody, rfl, rfl⟩ := unquote?_eq_some_iff.1 hs
    obtain ⟨hescape, hlast⟩ := escapeQuotes_unescape hbody
    exact ⟨_, rfl, hlast, by rw [literalOf, hescape]⟩
  · rintro ⟨s, rfl, hlast, rfl⟩
    exact ⟨s, unquote?_eq_some_iff.2
      ⟨_, isBody_escapeQuotes hlast, rfl, (unescape_escapeQuotes s).symm⟩, rfl⟩

end ArgumentType

end Overlay
