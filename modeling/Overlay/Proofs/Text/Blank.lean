import Overlay.Text.Blank

/-!
Trimming. A text is in one way only a middle that neither begins nor ends with
a blank character, with blanks on both sides of it, and trimming gives this
middle.
-/

namespace Overlay.Text

def StartsSolid (t : Text) : Prop := ∀ c ∈ t.head?, isBlank c = false

def EndsSolid (t : Text) : Prop := ∀ c ∈ t.getLast?, isBlank c = false

theorem allBlank_iff {t : Text} : t.allBlank = true ↔ ∀ c ∈ t, isBlank c = true := by
  simp [allBlank]

@[simp] theorem allBlank_nil : allBlank [] = true := rfl

theorem allBlank_cons {c : Char} {t : Text} :
    allBlank (c :: t) = true ↔ isBlank c = true ∧ t.allBlank = true := by
  simp [allBlank]

theorem allBlank_append {s t : Text} :
    (s ++ t).allBlank = true ↔ s.allBlank = true ∧ t.allBlank = true := by
  simp [allBlank]

theorem not_mem_of_allBlank {t : Text} {d : Char} (h : t.allBlank = true)
    (hd : isBlank d = false) : d ∉ t := by
  intro hmem
  rw [allBlank_iff.1 h d hmem] at hd
  cases hd

theorem allBlank_reverse (t : Text) : allBlank t.reverse = t.allBlank := by
  simp [allBlank]

@[simp] theorem startsSolid_cons {c : Char} {t : Text} :
    StartsSolid (c :: t) ↔ isBlank c = false := by
  simp [StartsSolid]

@[simp] theorem startsSolid_nil : StartsSolid [] := nofun

@[simp] theorem endsSolid_nil : EndsSolid [] := nofun

@[simp] theorem endsSolid_concat {c : Char} {t : Text} :
    EndsSolid (t ++ [c]) ↔ isBlank c = false := by
  simp [EndsSolid]

theorem endsSolid_iff_reverse {t : Text} : EndsSolid t ↔ StartsSolid t.reverse := by
  simp [EndsSolid, StartsSolid]

theorem StartsSolid.append {s t : Text} (h : StartsSolid s) (hne : s ≠ []) :
    StartsSolid (s ++ t) := by
  cases s with
  | nil => exact absurd rfl hne
  | cons c s => simpa using h

theorem EndsSolid.append {s t : Text} (h : EndsSolid t) (hne : t ≠ []) : EndsSolid (s ++ t) := by
  rw [endsSolid_iff_reverse] at h ⊢
  rw [List.reverse_append]
  exact h.append (by simpa using hne)

theorem dropBlank_append {b : Text} (hb : b.allBlank = true) (t : Text) :
    dropBlank (b ++ t) = dropBlank t :=
  List.dropWhile_append_of_pos (allBlank_iff.1 hb)

theorem dropBlank_of_allBlank {b : Text} (hb : b.allBlank = true) : dropBlank b = [] := by
  simpa [dropBlank] using dropBlank_append hb []

theorem dropBlank_of_startsSolid {t : Text} (h : StartsSolid t) : dropBlank t = t := by
  cases t with
  | nil => rfl
  | cons c t =>
      rw [startsSolid_cons] at h
      simp [dropBlank, h]

theorem startsSolid_dropBlank (t : Text) : StartsSolid (dropBlank t) := by
  induction t with
  | nil => exact startsSolid_nil
  | cons c t ih =>
      by_cases hc : isBlank c = true
      · simpa [dropBlank, hc] using ih
      · simp [dropBlank, hc]

theorem exists_dropBlank (t : Text) : ∃ b, b.allBlank = true ∧ t = b ++ dropBlank t :=
  ⟨t.takeWhile isBlank, List.all_takeWhile, List.takeWhile_append_dropWhile.symm⟩

theorem dropBlankEnd_append {b : Text} (hb : b.allBlank = true) (t : Text) :
    dropBlankEnd (t ++ b) = dropBlankEnd t := by
  rw [dropBlankEnd, List.reverse_append, dropBlank_append (by rwa [allBlank_reverse])]
  rfl

theorem dropBlankEnd_of_endsSolid {t : Text} (h : EndsSolid t) : dropBlankEnd t = t := by
  rw [dropBlankEnd, dropBlank_of_startsSolid (endsSolid_iff_reverse.1 h), List.reverse_reverse]

theorem endsSolid_dropBlankEnd (t : Text) : EndsSolid (dropBlankEnd t) := by
  rw [endsSolid_iff_reverse, dropBlankEnd, List.reverse_reverse]
  exact startsSolid_dropBlank t.reverse

theorem exists_dropBlankEnd (t : Text) :
    ∃ b, b.allBlank = true ∧ t = dropBlankEnd t ++ b := by
  obtain ⟨b, hb, h⟩ := exists_dropBlank t.reverse
  refine ⟨b.reverse, by rwa [allBlank_reverse], ?_⟩
  have h' := congrArg List.reverse h
  rwa [List.reverse_reverse, List.reverse_append] at h'

/-- The middle between blanks is what trimming gives. -/
theorem trim_eq {b t b' : Text} (hb : b.allBlank = true) (hb' : b'.allBlank = true)
    (hstart : StartsSolid t) (hend : EndsSolid t) : trim (b ++ t ++ b') = t := by
  rw [trim, List.append_assoc, dropBlank_append hb]
  cases t with
  | nil => rw [List.nil_append, dropBlank_of_allBlank hb']; rfl
  | cons c t =>
      rw [dropBlank_of_startsSolid (hstart.append (List.cons_ne_nil c t)), dropBlankEnd_append hb',
        dropBlankEnd_of_endsSolid hend]

/-- Every text has such a middle. -/
theorem exists_trim (t : Text) : ∃ b b', b.allBlank = true ∧ b'.allBlank = true ∧
    t = b ++ t.trim ++ b' ∧ StartsSolid t.trim ∧ EndsSolid t.trim := by
  obtain ⟨b, hb, hfront⟩ := exists_dropBlank t
  obtain ⟨b', hb', hback⟩ := exists_dropBlankEnd (dropBlank t)
  refine ⟨b, b', hb, hb', ?_, ?_, endsSolid_dropBlankEnd _⟩
  · rw [List.append_assoc, trim, ← hback, ← hfront]
  · have hsolid := startsSolid_dropBlank t
    rw [hback] at hsolid
    rw [trim]
    cases h : dropBlankEnd (dropBlank t) with
    | nil => exact startsSolid_nil
    | cons c m =>
        rw [h] at hsolid
        simpa using hsolid

theorem trim_eq_self_iff {t : Text} : t.trim = t ↔ StartsSolid t ∧ EndsSolid t := by
  constructor
  · intro h
    obtain ⟨-, -, -, -, -, hstart, hend⟩ := exists_trim t
    rw [h] at hstart hend
    exact ⟨hstart, hend⟩
  · rintro ⟨hstart, hend⟩
    simpa using trim_eq allBlank_nil allBlank_nil hstart hend

@[simp] theorem trim_trim (t : Text) : t.trim.trim = t.trim := by
  obtain ⟨-, -, -, -, -, hstart, hend⟩ := exists_trim t
  exact trim_eq_self_iff.2 ⟨hstart, hend⟩

theorem trim_append_blank {b b' : Text} (hb : b.allBlank = true) (hb' : b'.allBlank = true)
    (t : Text) : trim (b ++ t ++ b') = t.trim := by
  obtain ⟨c, c', hc, hc', ht, hstart, hend⟩ := exists_trim t
  have hfront : (b ++ c).allBlank = true := allBlank_append.2 ⟨hb, hc⟩
  have hback : (c' ++ b').allBlank = true := allBlank_append.2 ⟨hc', hb'⟩
  calc trim (b ++ t ++ b')
      = trim (b ++ c ++ t.trim ++ (c' ++ b')) := by
        have h := congrArg (fun u => trim (b ++ u ++ b')) ht
        simpa only [List.append_assoc] using h
    _ = t.trim := trim_eq hfront hback hstart hend

end Overlay.Text
