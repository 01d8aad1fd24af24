import Overlay.Proofs.Text.Parts

/-!
Texts with other blanks. Two balanced texts are respaced when they differ only
in the blanks that make up their gaps, outside of literals and at any depth of
brackets. Cutting, trimming and taking off brackets gives respaced parts again.
-/

namespace Overlay.Text

/-- Blanks that separate what stands before and after them on a line. -/
structure IsGap (g : Text) : Prop where
  nonempty : g ≠ []
  blank : g.allBlank = true
  line : '\n' ∉ g

/-- Sequences of units that differ in the blanks of their gaps. -/
inductive RespacedUnits : List Token → List Token → Prop
  | nil : RespacedUnits [] []
  | same (a : Token) {as as' : List Token} : RespacedUnits as as' →
      RespacedUnits (a :: as) (a :: as')
  | gap {g g' : Text} {as as' : List Token} : IsGap g → IsGap g' → RespacedUnits as as' →
      RespacedUnits (g.map .char ++ as) (g'.map .char ++ as')
  | group {o c : Char} {body body' : Text} {bs bs' as as' : List Token}
      (ho : closer? o = some c) : Balanced body bs → Balanced body' bs' →
      RespacedUnits bs bs' → RespacedUnits as as' →
      RespacedUnits (.literal (o :: body ++ [c]) :: as) (.literal (o :: body' ++ [c]) :: as')

/-- Balanced texts that differ in the blanks of their gaps. -/
def Respaced (t t' : Text) : Prop :=
  ∃ as as', Balanced t as ∧ Balanced t' as' ∧ RespacedUnits as as'

namespace RespacedUnits

theorem refl (as : List Token) : RespacedUnits as as := by
  induction as with
  | nil => exact .nil
  | cons a as ih => exact .same a ih

theorem symm {as as' : List Token} (h : RespacedUnits as as') : RespacedUnits as' as := by
  induction h with
  | nil => exact .nil
  | same a _ ih => exact .same a ih
  | gap hg hg' _ ih => exact .gap hg' hg ih
  | group ho hb hb' _ _ ihbody ih => exact .group ho hb' hb ihbody ih

theorem append {as as' bs bs' : List Token} (h : RespacedUnits as as')
    (h' : RespacedUnits bs bs') : RespacedUnits (as ++ bs) (as' ++ bs') := by
  induction h with
  | nil => exact h'
  | same a _ ih => exact .same a ih
  | gap hg hg' _ ih =>
      rw [List.append_assoc, List.append_assoc]
      exact .gap hg hg' ih
  | group ho hb hb' hbody _ _ ih => exact .group ho hb hb' hbody ih

theorem chars {g g' : Text} (hg : IsGap g) (hg' : IsGap g') :
    RespacedUnits (g.map .char) (g'.map .char) := by
  have h := gap hg hg' nil
  rwa [List.append_nil, List.append_nil] at h

theorem reverse {as as' : List Token} (h : RespacedUnits as as') :
    RespacedUnits as.reverse as'.reverse := by
  have hgap {g : Text} (hg : IsGap g) : IsGap g.reverse :=
    ⟨by simpa using hg.nonempty, by rw [allBlank_reverse, hg.blank], by simpa using hg.line⟩
  induction h with
  | nil => exact .nil
  | same a _ ih =>
      rw [List.reverse_cons, List.reverse_cons]
      exact ih.append (refl [a])
  | gap hg hg' _ ih =>
      rw [List.reverse_append, List.reverse_append, ← List.map_reverse, ← List.map_reverse]
      exact ih.append (chars (hgap hg) (hgap hg'))
  | group ho hb hb' hbody _ _ ih =>
      rw [List.reverse_cons, List.reverse_cons]
      exact ih.append (.group ho hb hb' hbody .nil)

theorem of_nil {as : List Token} (h : RespacedUnits [] as) : as = [] := by
  generalize hbs : ([] : List Token) = bs at h
  cases h with
  | nil => rfl
  | same => cases hbs
  | gap hg =>
      obtain ⟨hmap, -⟩ := List.append_eq_nil_iff.1 hbs.symm
      exact absurd (List.map_eq_nil_iff.1 hmap) hg.nonempty
  | group => cases hbs

theorem head_of_gap {g : Text} (hg : IsGap g) (as : List Token) :
    ∃ c rest, g.map Token.char ++ as = .char c :: rest ∧ isBlank c = true := by
  obtain ⟨c, g', rfl⟩ := List.exists_cons_of_ne_nil hg.nonempty
  exact ⟨c, g'.map .char ++ as, rfl, (allBlank_cons.1 hg.blank).1⟩

/-- A character that is not blank stays. -/
theorem of_cons_char {c : Char} {as bs : List Token} (hc : isBlank c = false)
    (h : RespacedUnits (.char c :: as) bs) : ∃ as', bs = .char c :: as' ∧ RespacedUnits as as' := by
  generalize hu : Token.char c :: as = us at h
  cases h with
  | nil => cases hu
  | same a h =>
      cases hu
      exact ⟨_, rfl, h⟩
  | gap hg _ _ =>
      obtain ⟨d, rest, heq, hd⟩ := head_of_gap hg _
      rw [heq] at hu
      cases hu
      rw [hc] at hd
      cases hd
  | group => cases hu

theorem of_chars_append {u : Text} {as bs : List Token} (hu : ∀ c ∈ u, isBlank c = false)
    (h : RespacedUnits (u.map .char ++ as) bs) :
    ∃ as', bs = u.map .char ++ as' ∧ RespacedUnits as as' := by
  induction u generalizing bs with
  | nil => exact ⟨bs, rfl, h⟩
  | cons c u ih =>
      obtain ⟨bs', rfl, h'⟩ := h.of_cons_char (hu c List.mem_cons_self)
      obtain ⟨as', rfl, has⟩ := ih (fun d hd => hu d (List.mem_cons_of_mem c hd)) h'
      exact ⟨as', rfl, has⟩

/-- A literal or a group stays one, and what stands in the brackets of a group
is respaced. -/
theorem of_literal {l : Text} {bs : List Token} (h : RespacedUnits [.literal l] bs) :
    ∃ l', bs = [.literal l'] ∧ (l' = l ∨ ∃ o c body body' cs cs', closer? o = some c ∧
      l = o :: body ++ [c] ∧ l' = o :: body' ++ [c] ∧ Balanced body cs ∧ Balanced body' cs' ∧
      RespacedUnits cs cs') := by
  generalize hu : [Token.literal l] = us at h
  cases h with
  | nil => cases hu
  | same a h =>
      cases hu
      obtain rfl := h.of_nil
      exact ⟨l, rfl, .inl rfl⟩
  | gap hg _ _ =>
      obtain ⟨d, rest, heq, -⟩ := head_of_gap hg _
      rw [heq] at hu
      cases hu
  | group ho hb hb' hbody h =>
      cases hu
      obtain rfl := h.of_nil
      exact ⟨_, rfl, .inr ⟨_, _, _, _, _, _, ho, rfl, rfl, hb, hb', hbody⟩⟩

/-- The delimiter comes first in both or in neither. -/
theorem isPrefix_iff {delimiter : Text} (hd : ∀ c ∈ delimiter, isBlank c = false)
    {as as' : List Token} (h : RespacedUnits as as') :
    delimiter.map Token.char <+: as ↔ delimiter.map Token.char <+: as' := by
  constructor
  · rintro ⟨rest, rfl⟩
    obtain ⟨rest', rfl, -⟩ := h.of_chars_append hd
    exact List.prefix_append _ _
  · rintro ⟨rest, rfl⟩
    obtain ⟨rest', rfl, -⟩ := h.symm.of_chars_append hd
    exact List.prefix_append _ _

theorem reverse_append_of_reverse {begun begun' x x' : List Token}
    (hbegun : RespacedUnits begun.reverse begun'.reverse) (hx : RespacedUnits x x') :
    RespacedUnits (x.reverse ++ begun).reverse (x'.reverse ++ begun').reverse := by
  rw [List.reverse_append, List.reverse_append, List.reverse_reverse, List.reverse_reverse]
  exact hbegun.append hx

/-- Respaced units are cut at the same places. -/
theorem forall₂_cutUnits {d : Char} {ds : Text} (hd : ∀ c ∈ d :: ds, isBlank c = false)
    (budget : Budget) {begun begun' as as' : List Token} (h : RespacedUnits as as')
    (hbegun : RespacedUnits begun.reverse begun'.reverse) :
    List.Forall₂ RespacedUnits (cutUnits (d :: ds) budget begun 0 as)
      (cutUnits (d :: ds) budget begun' 0 as') := by
  -- A cut goes over the whole delimiter and a gap over all its blanks at once.
  induction hlen : as.length using Nat.strongRecOn generalizing budget begun begun' as as' with
  | ind n ih =>
      subst hlen
      cases hspent : budget.isSpent with
      | true =>
          rw [cutUnits_spent hspent, cutUnits_spent hspent]
          exact .cons (hbegun.append h) .nil
      | false =>
          by_cases hstart : (d :: ds).map Token.char <+: as
          · obtain ⟨rest, rfl⟩ := hstart
            obtain ⟨rest', rfl, hrest⟩ := h.of_chars_append hd
            rw [cutUnits_delimiter d ds hspent, cutUnits_delimiter d ds hspent]
            have hlt : rest.length < ((d :: ds).map Token.char ++ rest).length := by
              rw [List.length_append, List.length_map, List.length_cons]
              omega
            exact .cons hbegun (ih rest.length hlt _ hrest .nil rfl)
          · have hstart' := mt (isPrefix_iff hd h).2 hstart
            cases h with
            | nil => exact .cons hbegun .nil
            | @same a as as' h =>
                rw [cutUnits_step hstart, cutUnits_step hstart']
                exact ih as.length (by simp) _ h
                  (reverse_append_of_reverse hbegun (refl [a])) rfl
            | @gap g g' as as' hg hg' h =>
                have hnot {g : Text} (hg : IsGap g) : Token.char d ∉ g.map Token.char := by
                  intro hmem
                  obtain ⟨c, hc, heq⟩ := List.mem_map.1 hmem
                  cases heq
                  have hblank := allBlank_iff.1 hg.blank d hc
                  rw [hd d List.mem_cons_self] at hblank
                  cases hblank
                have hpos := List.length_pos_iff.2 hg.nonempty
                rw [cutUnits_pass (hnot hg), cutUnits_pass (hnot hg')]
                exact ih as.length (by simp; omega) _ h
                  (reverse_append_of_reverse hbegun (chars hg hg')) rfl
            | @group o c body body' bs bs' as as' ho hb hb' hbody h =>
                rw [cutUnits_step hstart, cutUnits_step hstart']
                exact ih as.length (by simp) _ h
                  (reverse_append_of_reverse hbegun (.group ho hb hb' hbody .nil)) rfl

end RespacedUnits

/-- Whether a unit is a blank character. -/
def Token.isBlank : Token → Bool
  | .char c => Overlay.isBlank c
  | .literal _ => false

/-- The units of a text without blanks in front. -/
def dropBlankUnits (as : List Token) : List Token := as.dropWhile Token.isBlank

theorem dropBlankUnits_blank_append {b : Text} (hb : b.allBlank = true) (as : List Token) :
    dropBlankUnits (b.map .char ++ as) = dropBlankUnits as := by
  refine List.dropWhile_append_of_pos fun a ha => ?_
  obtain ⟨c, hc, rfl⟩ := List.mem_map.1 ha
  exact allBlank_iff.1 hb c hc

theorem RespacedUnits.dropBlankUnits {as as' : List Token} (h : RespacedUnits as as') :
    RespacedUnits (dropBlankUnits as) (dropBlankUnits as') := by
  induction h with
  | nil => exact .nil
  | same a h ih =>
      cases ha : a.isBlank with
      | true => simpa [Text.dropBlankUnits, ha] using ih
      | false => simpa [Text.dropBlankUnits, ha] using RespacedUnits.same a h
  | gap hg hg' _ ih =>
      rwa [dropBlankUnits_blank_append hg.blank, dropBlankUnits_blank_append hg'.blank]
  | group ho hb hb' hbody h _ => exact .group ho hb hb' hbody h

theorem Balanced.dropBlank {t : Text} {as : List Token} (h : Balanced t as) :
    Balanced t.dropBlank (dropBlankUnits as) := by
  obtain ⟨b, hb, ht⟩ := exists_dropBlank t
  rw [ht] at h
  obtain ⟨bs, rfl, hbs⟩ := h.of_blank_append hb
  rw [dropBlankUnits_blank_append hb]
  have hsolid := startsSolid_dropBlank t
  have hkeep : dropBlankUnits bs = bs := by
    cases bs with
    | nil => rfl
    | cons a bs =>
        cases a with
        | literal l => rfl
        | char c =>
            have hflat := hbs.flatten
            rw [← hflat] at hsolid
            have hc : Overlay.isBlank c = false := startsSolid_cons.1 hsolid
            simp [dropBlankUnits, Token.isBlank, hc]
  rwa [hkeep]

end Overlay.Text
