import Overlay.Proofs.Outline.Content
import Overlay.Proofs.Text.Parts

/-!
Lines around a place in a text. A space at the place stands in one line, and a
line feed in its stead cuts this line in two; all other lines stay.
-/

namespace Overlay.Text

/-- What stands after the last line feed. -/
def lastLine (t : Text) : Text := (t.reverse.takeWhile (· != '\n')).reverse

/-- The line that a text begins. -/
def firstLine (t : Text) : Text := t.lines.headD []

/-- The number of the line on which a text ends. -/
def lineNumber (t : Text) : Nat := t.count '\n' + 1

theorem exists_line_end (t : Text) :
    ∃ line, '\n' ∉ line ∧ line = t.takeWhile (· != '\n') ∧
      (t = line ∨ ∃ rest, t = line ++ '\n' :: rest) := by
  refine ⟨_, ?_, rfl, ?_⟩
  · intro hmem
    have hall := List.all_eq_true.1 (@List.all_takeWhile _ (· != '\n') t) _ hmem
    simp at hall
  · have hcut := List.takeWhile_append_dropWhile (p := (· != '\n')) (l := t)
    cases hrest : t.dropWhile (· != '\n') with
    | nil =>
        rw [hrest, List.append_nil] at hcut
        exact .inl hcut.symm
    | cons c rest =>
        have hhead := List.head?_dropWhile_not (· != '\n') t
        rw [hrest] at hcut hhead
        obtain rfl : c = '\n' := by simpa using hhead
        exact .inr ⟨rest, hcut.symm⟩

theorem exists_lastLine (t : Text) : '\n' ∉ t.lastLine ∧
    (t = t.lastLine ∨ ∃ front, t = front ++ '\n' :: t.lastLine) := by
  obtain ⟨line, hnot, hline, hcut⟩ := exists_line_end t.reverse
  rw [lastLine, ← hline]
  refine ⟨by simpa using hnot, ?_⟩
  rcases hcut with hcut | ⟨rest, hcut⟩
  · have hreverse := congrArg List.reverse hcut
    rw [List.reverse_reverse] at hreverse
    exact .inl hreverse
  · refine .inr ⟨rest.reverse, ?_⟩
    have hreverse := congrArg List.reverse hcut
    rw [List.reverse_reverse, List.reverse_append, List.reverse_cons, List.append_assoc] at hreverse
    exact hreverse

theorem linesFrom_line {x : Text} (hx : '\n' ∉ x) (begun rest : Text) :
    linesFrom begun (x ++ '\n' :: rest) = dropReturn (begun.reverse ++ x) :: lines rest := by
  induction x generalizing begun with
  | nil => simp [linesFrom, lines]
  | cons c x ih =>
      obtain ⟨hc, hx⟩ := not_or.1 (mt List.mem_cons.2 hx)
      have ih := ih hx (c :: begun)
      rw [List.cons_append, linesFrom, ih]
      · simp
      · exact fun h => hc h.symm

theorem linesFrom_last {x : Text} (hx : '\n' ∉ x) (begun : Text) :
    linesFrom begun x = if (begun.reverse ++ x).isEmpty then [] else [begun.reverse ++ x] := by
  induction x generalizing begun with
  | nil => simp [linesFrom]
  | cons c x ih =>
      obtain ⟨hc, hx⟩ := not_or.1 (mt List.mem_cons.2 hx)
      rw [linesFrom, ih hx (c :: begun)]
      · simp
      · exact fun h => hc h.symm

theorem linesFrom_append (begun q rest : Text) :
    linesFrom begun (q ++ '\n' :: rest) = linesFrom begun (q ++ ['\n']) ++ lines rest := by
  induction q generalizing begun with
  | nil => simp [linesFrom, lines]
  | cons c q ih =>
      by_cases hc : c = '\n'
      · subst hc
        simp [linesFrom, ih]
      · rw [List.cons_append, List.cons_append, linesFrom, linesFrom, ih]
        · exact hc
        · exact hc

theorem length_linesFrom (begun q : Text) :
    (linesFrom begun (q ++ ['\n'])).length = q.count '\n' + 1 := by
  induction q generalizing begun with
  | nil => simp [linesFrom]
  | cons c q ih =>
      by_cases hc : c = '\n'
      · subst hc
        simp [linesFrom, ih]
      · rw [List.cons_append, linesFrom, ih]
        · simp [hc]
        · exact hc

/-- The lines before the last one, and that this is the line with its number. -/
theorem exists_lines_append (t : Text) : ∃ before : List Text, before.length + 1 = t.lineNumber ∧
    ∀ rest, lines (t ++ rest) = before ++ lines (t.lastLine ++ rest) := by
  obtain ⟨hnot, hcut | ⟨front, hcut⟩⟩ := exists_lastLine t
  · refine ⟨[], ?_, fun rest => by rw [← hcut]; rfl⟩
    rw [lineNumber, hcut, List.count_eq_zero.2 hnot]
    rfl
  · refine ⟨lines (front ++ ['\n']), ?_, fun rest => ?_⟩
    · rw [lines, length_linesFrom, lineNumber, hcut, List.count_append, List.count_cons_self,
        List.count_eq_zero.2 hnot]
    · conv => lhs; rw [hcut]
      rw [List.append_assoc, List.cons_append, lines, linesFrom_append]
      rfl

theorem dropReturn_space (a b : Text) : dropReturn (a ++ ' ' :: b) = a ++ ' ' :: dropReturn b := by
  rcases List.eq_nil_or_concat b with rfl | ⟨b, c, rfl⟩
  · simp [dropReturn]
  · rw [List.concat_eq_append, ← List.cons_append, ← List.append_assoc, dropReturn, dropReturn]
    simp only [List.getLast?_concat, List.dropLast_concat]
    split
    · rfl
    · simp

/-- After a space the line goes on. -/
theorem lines_space {a : Text} (ha : '\n' ∉ a) (post : Text) :
    lines (a ++ ' ' :: post) = (a ++ ' ' :: firstLine post) :: (lines post).tail := by
  obtain ⟨b, hb, -, rfl | ⟨rest, rfl⟩⟩ := exists_line_end post
  · have hline : '\n' ∉ a ++ ' ' :: post := by simp [ha, hb]
    rw [lines, linesFrom_last hline, firstLine, lines, linesFrom_last hb]
    cases post with
    | nil => simp
    | cons c post => simp
  · have hline : '\n' ∉ a ++ ' ' :: b := by simp [ha, hb]
    have hlines : lines (b ++ '\n' :: rest) = dropReturn b :: lines rest :=
      linesFrom_line hb [] rest
    rw [firstLine, hlines, List.headD_cons, List.tail_cons, lines, ← List.cons_append,
      ← List.append_assoc, linesFrom_line hline]
    rw [List.reverse_nil, List.nil_append, dropReturn_space]

theorem lineFeed_not_mem_firstLine (t : Text) : '\n' ∉ t.firstLine := by
  obtain ⟨b, hb, -, rfl | ⟨rest, rfl⟩⟩ := exists_line_end t
  · rw [firstLine, lines, linesFrom_last hb]
    split
    · nofun
    · simpa using hb
  · have hlines : lines (b ++ '\n' :: rest) = dropReturn b :: lines rest :=
      linesFrom_line hb [] rest
    rw [firstLine, hlines, List.headD_cons, dropReturn]
    split
    · exact fun hmem => hb (List.dropLast_subset b hmem)
    · exact hb

/-- After a line feed the text has lines of its own. -/
theorem lines_lineFeed {a : Text} (ha : '\n' ∉ a) (post : Text) :
    lines (a ++ '\n' :: post) = dropReturn a :: lines post := linesFrom_line ha [] post

/-! Comments. -/

/-- Whether a line stands, at its end, outside of literals and comments for the
scan that finds comments: a number sign there would begin a comment. -/
def IsOutside (a : Text) : Prop := beforeComment (a ++ ['#']) = a

instance (a : Text) : Decidable (IsOutside a) :=
  inferInstanceAs (Decidable (beforeComment (a ++ ['#']) = a))

theorem beforeCommentFrom_append {inside escaped : Bool} {a : Text}
    (hstate : inside = false → escaped = false)
    (h : beforeCommentFrom inside escaped (a ++ ['#']) = a) (rest : Text) :
    beforeCommentFrom inside escaped (a ++ rest) = a ++ beforeComment rest := by
  induction a generalizing inside escaped with
  | nil =>
      cases inside with
      | true => simp [beforeCommentFrom] at h
      | false =>
          rw [hstate rfl]
          rfl
  | cons c a ih =>
      rw [List.cons_append, beforeCommentFrom] at h ⊢
      split at h
      · next hescape =>
        rw [if_pos hescape, ih (fun hout => absurd hescape.2 (by simp [hout])) (List.cons.inj h).2]
        rfl
      · next hescape =>
        rw [if_neg hescape]
        split at h
        · next hquote =>
          rw [if_pos hquote, ih (fun _ => rfl) (List.cons.inj h).2]
          rfl
        · next hquote =>
          rw [if_neg hquote]
          split at h
          · cases h
          · next hcomment =>
            rw [if_neg hcomment, ih (fun _ => rfl) (List.cons.inj h).2]
            rfl

theorem mem_of_mem_beforeCommentFrom {inside escaped : Bool} {line : Text} {c : Char}
    (h : c ∈ beforeCommentFrom inside escaped line) : c ∈ line := by
  induction line generalizing inside escaped with
  | nil => exact h
  | cons d line ih =>
      rw [beforeCommentFrom] at h
      split at h
      · exact List.mem_cons.2 ((List.mem_cons.1 h).imp_right ih)
      · split at h
        · exact List.mem_cons.2 ((List.mem_cons.1 h).imp_right ih)
        · split at h
          · cases h
          · exact List.mem_cons.2 ((List.mem_cons.1 h).imp_right ih)

theorem IsOutside.append {a : Text} (h : IsOutside a) (rest : Text) :
    beforeComment (a ++ rest) = a ++ beforeComment rest :=
  beforeCommentFrom_append (fun _ => rfl) h rest

theorem beforeCommentFrom_of_append {inside escaped : Bool} {a rest : Text}
    (h : beforeCommentFrom inside escaped (a ++ rest) = a ++ rest) :
    beforeCommentFrom inside escaped a = a := by
  induction a generalizing inside escaped with
  | nil => rfl
  | cons c a ih =>
      rw [List.cons_append, beforeCommentFrom] at h
      rw [beforeCommentFrom]
      split at h
      · next hescape => rw [if_pos hescape, ih (List.cons.inj h).2]
      · next hescape =>
        rw [if_neg hescape]
        split at h
        · next hquote => rw [if_pos hquote, ih (List.cons.inj h).2]
        · next hquote =>
          rw [if_neg hquote]
          split at h
          · cases h
          · next hcomment => rw [if_neg hcomment, ih (List.cons.inj h).2]

theorem stripComment_eq_ok_iff {line t : Text} : line.stripComment = .ok t ↔
    ∃ ts, Quoted line.beforeComment ts ∧ t = line.beforeComment.trim := by
  simp only [stripComment, Except.bind_eq_ok_iff, quotes_eq_ok_iff]
  constructor
  · rintro ⟨_, ⟨ts, hts, -⟩, h⟩
    cases h
    exact ⟨ts, hts, rfl⟩
  · rintro ⟨ts, hts, rfl⟩
    exact ⟨_, ⟨ts, hts, rfl⟩, rfl⟩

theorem Quoted.of_concat {t : Text} {c : Char} {ts : List Token} (hc : c ≠ '"')
    (h : Quoted (t ++ [c]) ts) : ∃ us, Quoted t us := by
  generalize hu : t ++ [c] = u at h
  induction h generalizing t with
  | nil => simp at hu
  | @char d u _ hd hesc _ ih =>
      cases t with
      | nil => exact ⟨[], .nil⟩
      | cons e t =>
          obtain ⟨rfl, rfl⟩ := List.cons.inj hu
          obtain ⟨us, hus⟩ := ih rfl
          refine ⟨_, .char hd (fun heq hhead => hesc heq ?_) hus⟩
          cases t with
          | nil => cases hhead
          | cons d t => exact hhead
  | @literal l u _ hl _ ih =>
      rcases List.eq_nil_or_concat u with rfl | ⟨u, d, rfl⟩
      · obtain ⟨body, -, rfl⟩ := hl
        rw [List.append_nil] at hu
        obtain ⟨-, hlast⟩ := List.append_inj' hu rfl
        exact absurd (List.cons.inj hlast).1 hc
      · rw [List.concat_eq_append, ← List.append_assoc] at hu
        obtain ⟨rfl, hlast⟩ := List.append_inj' hu rfl
        obtain ⟨us, hus⟩ := ih (by rw [List.concat_eq_append, hlast])
        exact ⟨_, .literal hl hus⟩

/-- The carriage return at the end of a line has no part in what it holds. -/
theorem IsOutside.stripComment_dropReturn {a : Text} {ts : List Token} (h : IsOutside a)
    (hts : Quoted a ts) : (dropReturn a).stripComment = .ok a.trim := by
  have hall := h.append []
  rw [List.append_nil, show beforeComment [] = [] from rfl, List.append_nil] at hall
  rw [stripComment_eq_ok_iff]
  unfold dropReturn
  split
  · next hreturn =>
    obtain ⟨b, rfl⟩ := List.getLast?_eq_some_iff.1 hreturn
    rw [List.dropLast_concat]
    have hb : beforeComment b = b := beforeCommentFrom_of_append hall
    obtain ⟨us, hus⟩ := hts.of_concat (by decide)
    rw [hb]
    refine ⟨us, hus, ?_⟩
    simpa using trim_append_blank allBlank_nil (show allBlank ['\r'] = true by decide) b
  · rw [hall]
    exact ⟨ts, hts, rfl⟩

/-- A space outside of literals and comments cuts what a line holds in two. -/
theorem IsOutside.stripComment_space {a b t : Text} {ts : List Token} (h : IsOutside a)
    (hts : Quoted a ts) (ht : (a ++ ' ' :: b).stripComment = .ok t) :
    t = trim (a ++ ' ' :: beforeComment b) ∧ b.stripComment = .ok (beforeComment b).trim := by
  obtain ⟨us, hus, rfl⟩ := stripComment_eq_ok_iff.1 ht
  have hspace : beforeComment (' ' :: b) = ' ' :: beforeComment b := rfl
  rw [h.append, hspace] at hus ⊢
  obtain ⟨vs, -, hvs⟩ := hts.of_append hus
  obtain ⟨ws, -, hws⟩ := hvs.of_cons (by decide)
  exact ⟨rfl, stripComment_eq_ok_iff.2 ⟨ws, hws, rfl⟩⟩

end Overlay.Text
