import Overlay.Code.Basic
import Overlay.Proofs.Failure.Description

/-!
Places of failures. Whatever is wrong with a text, the diagnostic names lines that the
text has and shows what stands on them, however deep in blocks these lines are: a run of
them with their text, or one of them without its outer blanks or its comment.
-/

namespace Overlay

open Text

variable {lines : List (Nat × Text)}

/-- Whether a diagnostic is about a run of lines or about one of them. -/
inductive Diagnostic.PointsInto (lines : List (Nat × Text)) : Diagnostic → Prop
  | run {u : SourceUnit} (cause : Fault) : u.StandsIn lines → PointsInto lines (u.diagnostic cause)
  | trimmed {number : Nat} {line : Text} (cause : Fault) : (number, line) ∈ lines →
      PointsInto lines ⟨.line number, line.trim, cause⟩
  | stripped {number : Nat} {line t : Text} (cause : Fault) : (number, line) ∈ lines →
      line.stripComment = .ok t → PointsInto lines ⟨.line number, t, cause⟩

/-- Whether all diagnostics of a computation point into some lines. -/
def Blames {α : Type} (lines : List (Nat × Text)) (x : Except Diagnostic α) : Prop :=
  ∀ d, x = .error d → d.PointsInto lines

theorem Diagnostic.ArisesIn.pointsInto {d : Diagnostic} (h : d.ArisesIn lines) :
    d.PointsInto lines := by
  cases h with
  | quotes hmem _ => exact .trimmed _ hmem
  | unknown hmem hline => exact .stripped _ hmem hline
  | brackets hu _ _ => exact .run _ hu
  | unit hu _ => exact .run _ hu

theorem Diagnostic.Arises.pointsInto {t : Text} {d : Diagnostic} (h : d.Arises t) :
    d.PointsInto (SourceUnit.numberFrom 1 t.lines) := by
  cases h with
  | lines h => exact h.pointsInto
  | header hi _ hheader _ =>
      exact .run _ ((Item.header_standsIn hi.run.nonempty hheader).mono hi.run.run)
  | list hi _ => exact .run _ hi.run

theorem Description.blames_ofText {t : Text} (hne : t.lines ≠ []) :
    Blames (SourceUnit.numberFrom 1 t.lines) (ofText t) :=
  (fails_ofText hne).mono fun _ hd => hd.pointsInto

/-! Lines of a text. -/

/-- The lines in a range. -/
def Span.cut (s : Span) (lines : List Text) : List Text :=
  (lines.drop (s.first - 1)).take (s.last + 1 - s.first)

/-- Whether a diagnostic is about lines that there are, and shows them: all of
them as they are, or a single one without its outer blanks, or without its comment
too. Where there are no lines it is about the first one. -/
structure Diagnostic.PointsAt (lines : List Text) (d : Diagnostic) : Prop where
  first_pos : 1 ≤ d.span.first
  ordered : d.span.first ≤ d.span.last
  last_le : d.span.last ≤ max 1 lines.length
  text : d.text = ['\n'].intercalate (d.span.cut lines) ∨
    d.span.first = d.span.last ∧ ∃ line, d.span.cut lines = [line] ∧
      (d.text = line.trim ∨ line.stripComment = .ok d.text)

namespace SourceUnit

/-- A run of the lines of a text is where its number says. -/
theorem cut_of_isInfix {number : Nat} {part lines : List Text} (hne : part ≠ [])
    (h : numberFrom number part <:+: numberFrom 1 lines) :
    1 ≤ number ∧ number + part.length ≤ lines.length + 1 ∧
      (lines.drop (number - 1)).take part.length = part := by
  obtain ⟨front, back, heq⟩ := h
  have hlen := congrArg List.length heq
  simp only [List.length_append, length_numberFrom] at hlen
  have hpart : numberFrom (1 + front.length) ((lines.drop front.length).take part.length) =
      numberFrom number part := by
    rw [← numberFrom_take, ← numberFrom_drop, ← heq, List.append_assoc, List.drop_left,
      ← length_numberFrom number part, List.take_left]
  have hsame := congrArg (List.map Prod.snd) hpart
  rw [texts_numberFrom, texts_numberFrom] at hsame
  rw [hsame] at hpart
  obtain ⟨line, part, rfl⟩ := List.exists_cons_of_ne_nil hne
  have hnumber : 1 + front.length = number := congrArg Prod.fst (List.cons.inj hpart).1
  subst hnumber
  refine ⟨by omega, by omega, ?_⟩
  rwa [Nat.add_sub_cancel_left]

/-- The lines of a unit are those in its span. -/
theorem StandsIn.cut {u : SourceUnit} {lines : List Text} (h : u.StandsIn (numberFrom 1 lines)) :
    1 ≤ u.span.first ∧ u.span.last ≤ lines.length ∧ u.span.cut lines = u.lines := by
  obtain ⟨hpos, hle, hcut⟩ := cut_of_isInfix h.nonempty h.run
  have hlen := List.length_pos_iff.2 h.nonempty
  have hcount : u.first + (u.lines.length - 1) + 1 - u.first = u.lines.length := by omega
  refine ⟨hpos, ?_, ?_⟩
  · show u.first + (u.lines.length - 1) ≤ lines.length
    omega
  · rw [Span.cut, span, Span.ofCount, hcount, hcut]

theorem cut_line {number : Nat} {line : Text} {lines : List Text}
    (h : (number, line) ∈ numberFrom 1 lines) :
    1 ≤ number ∧ number ≤ lines.length ∧ (Span.line number).cut lines = [line] := by
  obtain ⟨front, back, heq⟩ := List.append_of_mem h
  refine StandsIn.cut (u := ⟨number, [line], line⟩) ⟨List.cons_ne_nil _ _, front, back, ?_⟩
  rw [heq, List.append_assoc]
  rfl

end SourceUnit

theorem Diagnostic.pointsAt_of_pointsInto {d : Diagnostic} {lines : List Text}
    (h : d.PointsInto (SourceUnit.numberFrom 1 lines)) : d.PointsAt lines := by
  cases h with
  | @run u cause hu =>
      obtain ⟨hpos, hle, hcut⟩ := hu.cut
      refine ⟨hpos, u.span.ordered, Nat.le_trans hle (Nat.le_max_right _ _), .inl ?_⟩
      exact congrArg (List.intercalate ['\n']) hcut.symm
  | trimmed cause hmem =>
      obtain ⟨hpos, hle, hcut⟩ := SourceUnit.cut_line hmem
      exact ⟨hpos, Nat.le_refl _, Nat.le_trans hle (Nat.le_max_right _ _),
        .inr ⟨rfl, _, hcut, .inl rfl⟩⟩
  | stripped cause hmem ht =>
      obtain ⟨hpos, hle, hcut⟩ := SourceUnit.cut_line hmem
      exact ⟨hpos, Nat.le_refl _, Nat.le_trans hle (Nat.le_max_right _ _),
        .inr ⟨rfl, _, hcut, .inr ht⟩⟩

namespace Code

/-- Every error of a text is about its lines. -/
theorem pointsAt_of_compile_error {overlay t : Text} {d : Diagnostic}
    (h : compile overlay t = .error d) : d.PointsAt t.lines := by
  have h := Except.map_eq_error_iff.1 h
  by_cases hne : t.lines = []
  · rw [Description.ofText_of_no_lines hne] at h
    cases h
    rw [hne]
    exact ⟨Nat.le_refl 1, Nat.le_refl 1, Nat.le_refl 1, .inl rfl⟩
  · exact Diagnostic.pointsAt_of_pointsInto (Description.blames_ofText hne d h)

/-- A rule on two lines, inside an event block, that names no channel. -/
def misdirected : Text := ['\n'].intercalate ([
  "# errors",
  "state do",
  "  @a: discovery()",
  "  scratch s: @a",
  "  channel c: @a",
  "end",
  "bloom do",
  "  e <+ c.trigger(1, count > 2, v > 3)",
  "  e.on do",
  "    # not declared",
  "    d <~ merge(10,",
  "      c) # the last source",
  "  end",
  "end"].map String.toList)

/-- What is wrong with `misdirected`. -/
def misdirection : Diagnostic :=
  { span := ⟨11, 12, by decide⟩
    text := "    d <~ merge(10,\n      c) # the last source".toList
    cause := .undefinedChannel ['d'] }

/-- The error in `misdirected` shows the two lines of the rule. -/
theorem pointsAt_misdirected :
    compile [] misdirected = .error misdirection ∧ misdirection.PointsAt misdirected.lines := by
  have hread : Description.ofText misdirected = .error misdirection := by
    -- Lists of characters cost the kernel less than the literals they come from.
    simp only [misdirected, List.map_cons, List.map_nil]
    repeat rw [String.toList_ofList]
    decide +kernel
  have h : compile [] misdirected = .error misdirection := by rw [compile, hread, Except.map_error]
  exact ⟨h, pointsAt_of_compile_error h⟩

end Code

end Overlay
