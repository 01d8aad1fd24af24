import Overlay.Proofs.Break.Line
import Overlay.Proofs.Outline.Content
import Overlay.Proofs.Spacing.Gap
import Mathlib.Data.List.Induction

/-!
Lines that are joined. What a line holds has its literals closed, so literals do not
reach from one line into the next, and what is joined to lines later does not change
how many brackets they leave open.
-/

namespace Overlay

open Text

namespace Text

theorem Quoted.of_plain_append {u t : Text} {ts : List Token} (hu : ∀ c ∈ u, isPlain c = true)
    (h : Quoted (u ++ t) ts) : ∃ us, Quoted t us := by
  induction u generalizing ts with
  | nil => exact ⟨ts, h⟩
  | cons c u ih =>
      obtain ⟨hquote, -⟩ := isPlain_iff.1 (hu c List.mem_cons_self)
      obtain ⟨us, -, hus⟩ := Quoted.of_cons hquote h
      exact ih (fun d hd => hu d (List.mem_cons_of_mem c hd)) hus

theorem Quoted.of_append_plain {u t : Text} {ts : List Token} (hu : ∀ c ∈ u, isPlain c = true)
    (h : Quoted (t ++ u) ts) : ∃ us, Quoted t us := by
  induction u using List.reverseRecOn generalizing ts with
  | nil =>
      rw [List.append_nil] at h
      exact ⟨ts, h⟩
  | append_singleton u c ih =>
      obtain ⟨hquote, -⟩ := isPlain_iff.1 (hu c (by simp))
      rw [← List.append_assoc] at h
      obtain ⟨us, hus⟩ := h.of_concat hquote
      exact ih (fun d hd => hu d (List.mem_append_left _ hd)) hus

theorem Quoted.trim {t : Text} {ts : List Token} (h : Quoted t ts) : ∃ us, Quoted t.trim us := by
  obtain ⟨b, b', hb, hb', heq, -⟩ := exists_trim t
  rw [heq] at h
  obtain ⟨us, hus⟩ := h.of_append_plain (forall_plain_of_allBlank hb')
  exact hus.of_plain_append (forall_plain_of_allBlank hb)

theorem exists_quoted_of_stripComment {line t : Text} (h : line.stripComment = .ok t) :
    ∃ ts, Quoted t ts := by
  obtain ⟨ts, hts, rfl⟩ := stripComment_eq_ok_iff.1 h
  exact hts.trim

theorem exists_quoted_intercalate {ts : List Text} (h : ∀ t ∈ ts, ∃ us, Quoted t us) :
    ∃ us, Quoted ([' '].intercalate ts) us := by
  induction ts with
  | nil => exact ⟨[], .nil⟩
  | cons t ts ih =>
      obtain ⟨⟨us, hus⟩, hts⟩ := List.forall_mem_cons.1 h
      cases ts with
      | nil => exact ⟨us, by rwa [List.intercalate_singleton]⟩
      | cons t' ts =>
          obtain ⟨vs, hvs⟩ := ih hts
          rw [List.intercalate_cons_cons, List.append_assoc]
          exact ⟨_, hus.append_gap isGap_space hvs⟩

/-- What is joined to a text later does not take a closing bracket that is out of place
in it back. -/
theorem exists_bracketDepth_of_append {s t : Text} {ss : List Token} (hs : Quoted s ss)
    {depth : Nat} (h : bracketDepth (s ++ t) = .ok depth) :
    ∃ before, bracketDepth s = .ok before := by
  obtain ⟨ts, es, hts, hes, -⟩ := bracketDepth_eq_ok_iff.1 h
  obtain ⟨us, rfl, -⟩ := hs.of_append hts
  rw [expectedAfter_append] at hes
  obtain ⟨fs, hfs, -⟩ := Option.bind_eq_some_iff.1 hes
  exact ⟨fs.length, bracketDepth_eq_ok_iff.2 ⟨ss, fs, hs, hfs, rfl⟩⟩

end Text

theorem Content.exists_quoted {lines cs : List (Nat × Text)} (h : Content lines cs) :
    ∀ t ∈ texts cs, ∃ us, Quoted t us := by
  induction h with
  | nil => nofun
  | blank _ _ ih => exact ih
  | line hline _ _ ih => exact List.forall_mem_cons.2 ⟨exists_quoted_of_stripComment hline, ih⟩

theorem Content.exists_quoted_intercalate {lines cs : List (Nat × Text)} (h : Content lines cs) :
    ∃ us, Quoted ([' '].intercalate (texts cs)) us :=
  Text.exists_quoted_intercalate h.exists_quoted

/-- If the brackets of lines fit, so do those of the first of them. -/
theorem Content.exists_bracketDepth {lines cs ds : List (Nat × Text)} (h : Content lines cs)
    {depth : Nat} (hdepth : bracketDepth ([' '].intercalate (texts (cs ++ ds))) = .ok depth) :
    ∃ before, bracketDepth ([' '].intercalate (texts cs)) = .ok before := by
  by_cases hcs : cs = []
  · rw [hcs]
    exact ⟨0, rfl⟩
  · by_cases hds : ds = []
    · rw [hds, List.append_nil] at hdepth
      exact ⟨depth, hdepth⟩
    · obtain ⟨us, hus⟩ := h.exists_quoted_intercalate
      rw [texts_append, intercalate_append (by simpa using hcs) (by simpa using hds),
        List.append_assoc] at hdepth
      exact exists_bracketDepth_of_append hus hdepth

end Overlay
