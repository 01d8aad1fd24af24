import Overlay.Proofs.Text.Parts
import Mathlib.Data.List.Infix

/-!
Texts that are written with a delimiter between their pieces. If the delimiter
stands in no piece outside of literals and brackets, cutting the text gives the
pieces back, trimmed. Names, literals and calls are such pieces, and blanks
around a piece or around the whole make no difference.
-/

namespace Overlay.Text

/-! Blanks around a text. -/

/-- Whether a text stands between blanks in another. -/
def IsPadded (t padded : Text) : Prop :=
  ∃ b b', b.allBlank = true ∧ b'.allBlank = true ∧ padded = b ++ t ++ b'

theorem isPadded_trim (t : Text) : IsPadded t.trim t := by
  obtain ⟨b, b', hb, hb', ht, -, -⟩ := exists_trim t
  exact ⟨b, b', hb, hb', ht⟩

theorem IsPadded.trim_eq {t padded : Text} (h : IsPadded t padded) : padded.trim = t.trim := by
  obtain ⟨b, b', hb, hb', rfl⟩ := h
  exact trim_append_blank hb hb' t

theorem map_trim_of_isPadded {ts raws : List Text} (h : List.Forall₂ IsPadded ts raws) :
    raws.map trim = ts.map trim := by
  induction h with
  | nil => rfl
  | cons ht _ ih => rw [List.map_cons, List.map_cons, ht.trim_eq, ih]

theorem isPadded_map_trim (raws : List Text) :
    List.Forall₂ IsPadded (raws.map trim) raws := by
  rw [List.forall₂_map_left_iff, List.forall₂_same]
  exact fun raw _ => isPadded_trim raw

/-! Characters that stand in literals and brackets only. -/

/-- Whether a text is balanced and has a character only inside of literals and
brackets. -/
def Hides (d : Char) (t : Text) : Prop := ∃ as, Balanced t as ∧ Token.char d ∉ as

namespace Hides

variable {d : Char}

theorem of_plain {t : Text} (ht : ∀ c ∈ t, isPlain c = true) (hd : d ∉ t) : Hides d t :=
  ⟨t.map .char, balanced_of_plain ht, by simpa using hd⟩

theorem of_literal {t g : Text} (h : Balanced t [.literal g]) : Hides d t :=
  ⟨[.literal g], h, by simp⟩

theorem plain_append {u t : Text} (hu : ∀ c ∈ u, isPlain c = true) (hd : d ∉ u)
    (h : Hides d t) : Hides d (u ++ t) := by
  obtain ⟨as, has, hnot⟩ := h
  refine ⟨u.map .char ++ as, has.plain_append hu, fun hmem => ?_⟩
  rcases List.mem_append.1 hmem with hmem | hmem
  · exact hd (by simpa using hmem)
  · exact hnot hmem

theorem of_isName {name : Text} (hname : name.isName = true) (hd : isWord d = false) :
    Hides d name :=
  of_plain (fun c hc => (isSolid_of_isName hname c hc).1) (not_mem_of_isName hname hd)

theorem name_append {name t : Text} (h : Hides d t) (hname : name.isName = true)
    (hd : isWord d = false) : Hides d (name ++ t) :=
  h.plain_append (fun c hc => (isSolid_of_isName hname c hc).1) (not_mem_of_isName hname hd)

theorem blank_append {b t : Text} (h : Hides d t) (hb : b.allBlank = true)
    (hd : isBlank d = false) : Hides d (b ++ t) :=
  h.plain_append (forall_plain_of_allBlank hb) (not_mem_of_allBlank hb hd)

theorem append_plain {s u t : Text} (hs : Hides d s) (hu : ∀ c ∈ u, isPlain c = true)
    (hne : u ≠ []) (hd : d ∉ u) (ht : Hides d t) : Hides d (s ++ u ++ t) := by
  obtain ⟨as, has, hnot⟩ := hs
  obtain ⟨bs, hbs, hnot'⟩ := ht
  refine ⟨as ++ (u.map .char ++ bs), ?_, ?_⟩
  · rw [List.append_assoc]
    exact has.append_plain hu hne hbs
  · simp [hnot, hnot', hd]

theorem padded {t u : Text} (hd : isBlank d = false) (h : Hides d t) (hu : IsPadded t u) :
    Hides d u := by
  obtain ⟨b, b', hb, hb', rfl⟩ := hu
  rw [List.append_assoc]
  refine blank_append ?_ hb hd
  rcases List.eq_nil_or_concat b' with rfl | ⟨front, c, rfl⟩
  · rwa [List.append_nil]
  · have hback := h.append_plain (forall_plain_of_allBlank hb') (by simp)
      (not_mem_of_allBlank hb' hd)      (of_plain (t := []) nofun nofun)
    rwa [List.append_nil] at hback

theorem forall_padded {ts raws : List Text} (hd : isBlank d = false)
    (hraws : List.Forall₂ IsPadded ts raws) (h : ∀ t ∈ ts, Hides d t) :
    ∀ raw ∈ raws, Hides d raw := by
  intro raw hraw
  obtain ⟨t, ht, hpadded⟩ := forall₂_exists_of_mem_right hraws hraw
  exact (h t ht).padded hd hpadded

theorem intercalate {delimiter : Text} (hplain : ∀ c ∈ delimiter, isPlain c = true)
    (hne : delimiter ≠ []) (hd : d ∉ delimiter) {raws : List Text}
    (h : ∀ raw ∈ raws, Hides d raw) : Hides d (delimiter.intercalate raws) := by
  induction raws with
  | nil => exact of_plain nofun nofun
  | cons raw raws ih =>
      cases raws with
      | nil => simpa using h
      | cons next raws =>
          rw [List.intercalate_cons_cons]
          exact (h raw List.mem_cons_self).append_plain hplain hne hd
            (ih fun r hr => h r (List.mem_cons_of_mem raw hr))

end Hides

/-! Cutting gives the pieces back. -/

section

variable {d : Char} {ds : Text}

/-- The units of a text that is written with a delimiter between its pieces. -/
theorem balanced_intercalate (hplain : ∀ c ∈ d :: ds, isPlain c = true) {raws : List Text}
    (h : ∀ raw ∈ raws, Hides d raw) :
    ∃ xs, Balanced ((d :: ds).intercalate raws) (((d :: ds).map Token.char).intercalate xs) ∧
      List.Forall₂ (fun raw x => Token.flatten x = raw ∧ Token.char d ∉ x) raws xs := by
  induction raws with
  | nil => exact ⟨[], .nil, .nil⟩
  | cons raw raws ih =>
      obtain ⟨x, hx, hnot⟩ := h raw List.mem_cons_self
      obtain ⟨xs, hxs, hall⟩ := ih fun r hr => h r (List.mem_cons_of_mem raw hr)
      refine ⟨x :: xs, ?_, .cons ⟨hx.flatten, hnot⟩ hall⟩
      cases hall with
      | nil => rwa [List.intercalate_singleton, List.intercalate_singleton]
      | cons _ _ =>
          rw [List.intercalate_cons_cons, List.intercalate_cons_cons, List.append_assoc,
            List.append_assoc]
          exact hx.append_plain hplain (List.cons_ne_nil d ds) hxs

/-- Pieces that hide the delimiter are the parts of what they make up. -/
theorem split_intercalate (hplain : ∀ c ∈ d :: ds, isPlain c = true) {raws : List Text}
    (hne : raws ≠ []) (h : ∀ raw ∈ raws, Hides d raw) :
    split ((d :: ds).intercalate raws) (d :: ds) none = .ok (raws.map trim) := by
  obtain ⟨xs, hxs, hall⟩ := balanced_intercalate hplain h
  have hxsne := ne_nil_of_forall₂ hall hne
  have hhides : ∀ x ∈ xs, Token.char d ∉ x := fun x hx =>
    (forall₂_exists_of_mem_right hall hx).elim fun _ hraw => hraw.2.2
  refine (split_eq_ok_iff (List.cons_ne_nil d ds)).2 ⟨_, hxs, ?_⟩
  rw [Option.map_none, cutUnits_intercalate hxsne hhides]
  clear hxs hxsne hhides hne h
  induction hall with
  | nil => rfl
  | cons hfirst _ ih => rw [List.map_cons, List.map_cons, hfirst.1, ih]

/-- With two parts at most, the first delimiter is where the text is cut. -/
theorem split_two (hplain : ∀ c ∈ d :: ds, isPlain c = true) {s t : Text} (hs : Hides d s)
    {bs : List Token} (ht : Balanced t bs) :
    (s ++ (d :: ds) ++ t).split (d :: ds) (some 2) = .ok [s.trim, t.trim] := by
  obtain ⟨as, has, hnot⟩ := hs
  have hwhole := has.append_plain hplain (List.cons_ne_nil d ds) ht
  rw [← List.append_assoc s] at hwhole
  refine (split_eq_ok_iff (List.cons_ne_nil d ds)).2 ⟨_, hwhole, ?_⟩
  rw [Option.map_some, cutUnits_pass hnot, cutUnits_delimiter d ds (by rfl),
    cutUnits_spent (by rfl)]
  simp [has.flatten, ht.flatten]

end

/-! Blanks around the whole. -/

/-- Blanks around the whole are blanks around its first and its last piece. -/
theorem exists_intercalate_of_isPadded {delimiter t : Text} {raws : List Text} (hne : raws ≠ [])
    (h : IsPadded (delimiter.intercalate raws) t) :
    ∃ raws', t = delimiter.intercalate raws' ∧ List.Forall₂ IsPadded raws raws' := by
  obtain ⟨b, b', hb, hb', rfl⟩ := h
  have hsame (ts : List Text) : List.Forall₂ IsPadded ts ts :=
    List.forall₂_same.2 fun t _ => ⟨[], [], allBlank_nil, allBlank_nil, by simp⟩
  rcases List.eq_nil_or_concat raws with rfl | ⟨front, last, rfl⟩
  · exact absurd rfl hne
  · rw [List.concat_eq_append]
    -- A piece that is both the first and the last has blanks on both sides.
    cases front with
    | nil => exact ⟨[b ++ last ++ b'], by simp, .cons ⟨b, b', hb, hb', rfl⟩ .nil⟩
    | cons first front =>
        refine ⟨(b ++ first) :: (front ++ [last ++ b']), ?_,
          .cons ?_ (List.rel_append (hsame front) ?_)⟩
        · rw [intercalate_append_left, ← List.cons_append, intercalate_append_right,
            List.append_assoc]
        · exact ⟨b, [], hb, allBlank_nil, by simp⟩
        · exact .cons ⟨[], b', allBlank_nil, hb', rfl⟩ .nil

/-- The untrimmed parts hide the delimiter. -/
theorem exists_intercalate_of_split_hides {d : Char} {t : Text} {parts : List Text}
    (h : t.split [d] none = .ok parts) :
    ∃ raws, t = [d].intercalate raws ∧ parts = raws.map trim ∧ raws ≠ [] ∧
      ∀ raw ∈ raws, Hides d raw := by
  obtain ⟨as, has, rfl⟩ := (split_eq_ok_iff (List.cons_ne_nil d [])).1 h
  refine ⟨(cutUnits [d] none [] 0 as).map Token.flatten, ?_, ?_, ?_, fun raw hraw => ?_⟩
  · rw [intercalate_eq_flatten, intercalate_cutUnits (List.cons_ne_nil d [])]
    exact has.flatten.symm
  · rw [List.map_map]
    rfl
  · simpa using cutUnits_ne_nil [d] none [] 0 as
  · obtain ⟨x, hx, rfl⟩ := List.mem_map.1 hraw
    obtain ⟨hpiece, hnot⟩ := infix_of_mem_cutUnits (List.cons_ne_nil d []) hx
    refine ⟨x, has.piece hpiece, fun hmem => hnot ?_⟩
    simpa using (List.singleton_infix_iff _ _).2 hmem

/-- Blanks around the pieces do not matter. -/
theorem split_intercalate_padded {d : Char} (hplain : isPlain d = true) (hd : isBlank d = false)
    {ts raws : List Text} (hraws : List.Forall₂ IsPadded ts raws) (hne : ts ≠ [])
    (h : ∀ t ∈ ts, Hides d t) : split ([d].intercalate raws) [d] none = .ok (ts.map trim) := by
  have hparts := @split_intercalate d [] (by simpa using hplain) raws (ne_nil_of_forall₂ hraws hne)
    (Hides.forall_padded hd hraws h)
  rwa [map_trim_of_isPadded hraws] at hparts

theorem split_of_isPadded {d : Char} (hplain : isPlain d = true) (hd : isBlank d = false)
    {s t : Text} (h : IsPadded s t) {parts : List Text} (hs : s.split [d] none = .ok parts) :
    t.split [d] none = .ok parts := by
  obtain ⟨raws, rfl, rfl, hne, hhides⟩ := exists_intercalate_of_split_hides hs
  obtain ⟨raws', rfl, hall⟩ := exists_intercalate_of_isPadded hne h
  exact split_intercalate_padded hplain hd hall hne hhides

/-- Trimming a text does not change its parts. -/
theorem split_trim {d : Char} (hplain : isPlain d = true) (hd : isBlank d = false) {t : Text}
    {parts : List Text} (h : t.split [d] none = .ok parts) : t.trim.split [d] none = .ok parts := by
  obtain ⟨as, has, -⟩ := (split_eq_ok_iff (List.cons_ne_nil d [])).1 h
  obtain ⟨bs, -, hbs⟩ := has.trim
  -- The trimmed text is cut somehow, and the text, which has blanks around it, as it is.
  have hparts : t.trim.split [d] none = .ok _ :=
    (split_eq_ok_iff (List.cons_ne_nil d [])).2 ⟨bs, hbs, rfl⟩
  have hpadded := split_of_isPadded hplain hd (isPadded_trim t) hparts
  rw [h] at hpadded
  rw [hparts, ← hpadded]

end Overlay.Text
