import Overlay.Proofs.Layout.Description

/-!
Code in two layouts. Two texts whose lines hold the same, once comments, outer
blanks and empty lines are gone, have the same code, or both have none for the
same reason.
-/

namespace Overlay

open Text

/-- The content of lines that can be stripped is what they hold, where they hold
anything. -/
theorem Content.exists_of_mapM {lines ts : List Text} (number : Nat)
    (h : lines.mapM stripComment = .ok ts) : ∃ cs,
      Content (SourceUnit.numberFrom number lines) cs ∧ texts cs = ts.filter (· ≠ []) := by
  induction lines generalizing number ts with
  | nil =>
      cases h
      exact ⟨[], .nil, rfl⟩
  | cons line lines ih =>
      obtain ⟨t, ts, hline, hrest, rfl⟩ := Except.mapM_cons_eq_ok_iff.1 h
      obtain ⟨cs, hcs, htexts⟩ := ih (number + 1) hrest
      by_cases hne : t = []
      · subst hne
        exact ⟨cs, .blank hline hcs, by simpa using htexts⟩
      · exact ⟨(number, t) :: cs, .line hline hne hcs, by simp [htexts, hne]⟩

namespace Code

/-- Blank lines, comments and blanks around lines have no part in the code, nor
in the reason why a text has none. -/
theorem compile_agree_of_same_texts {overlay t t' : Text} {ts ts' : List Text}
    (h : t.lines.mapM stripComment = .ok ts) (h' : t'.lines.mapM stripComment = .ok ts')
    (hsame : ts.filter (· ≠ []) = ts'.filter (· ≠ [])) :
    Agree (· = ·) (compile overlay t) (compile overlay t') := by
  obtain ⟨cs, hcs, htexts⟩ := Content.exists_of_mapM 1 h
  obtain ⟨cs', hcs', htexts'⟩ := Content.exists_of_mapM 1 h'
  have hread := Description.agree_ofText hcs hcs' (htexts'.trans (hsame.symm.trans htexts.symm))
  exact hread.map fun hmoved => (ofDescription_of_moved hmoved overlay).symm

/-- A description with a rule on two lines. -/
def dense : Text := ['\n'].intercalate ([
  "state do",
  "@a: discovery()",
  "scratch s: @a",
  "channel c: @a",
  "end",
  "bloom do",
  "c <~ s.filter(v > 4",
  "|| v < 1)",
  "end"].map String.toList)

/-- The same description with comments, empty lines and indentation. -/
def airy : Text := ['\n'].intercalate ([
  "",
  "# services",
  "state do  # one service",
  "  @a: discovery()",
  "",
  "  scratch s: @a",
  "  channel c: @a # and a channel",
  "end",
  "",
  "bloom do",
  "",
  "  c <~ s.filter(v > 4",
  "    # the rule goes on below",
  "    || v < 1)",
  "end"].map String.toList)

/-- What the lines of `dense` hold. -/
def denseTexts : List Text :=
  ["state do", "@a: discovery()", "scratch s: @a", "channel c: @a", "end", "bloom do",
    "c <~ s.filter(v > 4", "|| v < 1)", "end"].map String.toList

/-- What the lines of `airy` hold. -/
def airyTexts : List Text :=
  ["", "", "state do", "@a: discovery()", "", "scratch s: @a", "channel c: @a", "end", "",
    "bloom do", "", "c <~ s.filter(v > 4", "", "|| v < 1)", "end"].map String.toList

/-- The two layouts have the same code. -/
theorem compile_airy : ∃ code, compile [] dense = .ok code ∧ compile [] airy = .ok code := by
  have hdense : dense.lines.mapM stripComment = .ok denseTexts := by decide +kernel
  have hairy : airy.lines.mapM stripComment = .ok airyTexts := by decide +kernel
  have hsame : denseTexts.filter (· ≠ []) = airyTexts.filter (· ≠ []) := by decide +kernel
  have hok : (compile [] dense).toOption.isSome = true := by decide +kernel
  obtain ⟨code, hcode⟩ := Except.exists_ok_of_isSome hok
  obtain ⟨_, hcode', rfl⟩ :=
    (compile_agree_of_same_texts hdense hairy hsame).exists_of_ok hcode
  exact ⟨code, hcode, hcode'⟩

end Code

end Overlay
