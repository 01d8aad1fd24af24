import Overlay.Proofs.Condition.Reading
import Overlay.Proofs.Literal

/-!
The shape of the text of a leaf. It begins with a word character, does not end
with a blank, and to a scan for operators it is a balanced text in which no
part of an operator stands outside of literals and brackets.
-/

namespace Overlay

/-- Whether a character is plain and no part of an operator. -/
def isInert (c : Char) : Bool := Text.isPlain c && c != '|' && c != '&'

theorem isInert_of {p : Char → Bool} {c : Char} (h : p c = true)
    (hnot : ∀ d ∈ ['"', '\\', '(', ')', '[', ']', '|', '&'], p d = false) : isInert c = true := by
  have hplain : Text.isPlain c = true :=
    Text.isPlain_of h fun d hd => hnot d (List.mem_append_left ['|', '&'] hd)
  have hor : c ≠ '|' := by
    rintro rfl
    rw [hnot _ (by decide)] at h
    cases h
  have hand : c ≠ '&' := by
    rintro rfl
    rw [hnot _ (by decide)] at h
    cases h
  simp [isInert, hplain, hor, hand]

theorem isInert_of_isWord {c : Char} (h : isWord c = true) : isInert c = true :=
  isInert_of h (by decide)

theorem isInert_of_isBlank {c : Char} (h : isBlank c = true) : isInert c = true :=
  isInert_of h (by decide)

theorem isInert_of_isNumeric {c : Char} (h : isNumeric c = true) : isInert c = true :=
  isInert_of h (by decide)

namespace Text

/-- A balanced text in which no part of an operator stands outside. -/
structure IsOperand (t : Text) (as : List Token) : Prop where
  balanced : Balanced t as
  noOr : .char '|' ∉ as
  noAnd : .char '&' ∉ as

theorem isOperand_nil : IsOperand [] [] := ⟨.nil, nofun, nofun⟩

theorem isOperand_literal {t g : Text} (h : Balanced t [.literal g]) :
    IsOperand t [.literal g] :=
  ⟨h, by simp, by simp⟩

theorem IsOperand.append_inert {u t : Text} {as : List Token}
    (hu : ∀ c ∈ u, isInert c = true) (h : IsOperand t as) :
    IsOperand (u ++ t) (u.map .char ++ as) := by
  have hplain : ∀ c ∈ u, isPlain c = true := by
    intro c hc
    have hinert := hu c hc
    simp only [isInert, Bool.and_eq_true] at hinert
    exact hinert.1.1
  have hnot {d : Char} (hd : isInert d = false) (has : .char d ∉ as) :
      .char d ∉ u.map .char ++ as := by
    intro hmem
    rcases List.mem_append.1 hmem with hmem | hmem
    · obtain ⟨c, hc, heq⟩ := List.mem_map.1 hmem
      cases heq
      rw [hu d hc] at hd
      cases hd
    · exact has hmem
  exact ⟨h.balanced.plain_append hplain, hnot (by decide) h.noOr, hnot (by decide) h.noAnd⟩

theorem isOperand_of_inert {u : Text} (hu : ∀ c ∈ u, isInert c = true) :
    IsOperand u (u.map .char) := by
  have h := IsOperand.append_inert hu isOperand_nil
  rwa [List.append_nil, List.append_nil] at h

theorem endsSolid_of_all {t : Text} (h : ∀ c ∈ t, isBlank c = false) : EndsSolid t :=
  fun c hc => h c (List.mem_of_getLast? hc)

/-- What stands in the brackets of a call, and the call around it. -/
theorem balanced_of_group? {m : Method} {t inner : Text} (h : m.group? t = some inner) :
    ∃ rest, t = m.label ++ rest ∧ Balanced rest [.literal rest] := by
  obtain ⟨rfl, bs, hbs⟩ := Method.eq_of_group? h
  exact ⟨_, rfl, .group (show closer? '(' = some ')' from rfl) hbs .nil⟩

end Text

namespace Literal

open Text

/-- The text of a literal is an operand. -/
theorem shape_of_ofText {t : Text} {l : Literal} (h : ofText t = .ok l) :
    t ≠ [] ∧ EndsSolid t ∧ ∃ as, IsOperand t as := by
  rcases written_of_ofText h with ⟨hne, hnum⟩ | hliteral
  · exact ⟨hne, endsSolid_of_all fun c hc => isBlank_of_isNumeric (hnum c hc), _,
      isOperand_of_inert fun c hc => isInert_of_isNumeric (hnum c hc)⟩
  · have hbalanced := Balanced.of_isLiteral hliteral
    obtain ⟨hne, -, hend⟩ := hbalanced.solid_of_literal
    exact ⟨hne, hend, _, isOperand_literal hbalanced⟩

end Literal

namespace Leaf

open Text

/-- What the text of a leaf is for a scan. -/
structure Shape (t : Text) : Prop where
  starts : ∃ c rest, t = c :: rest ∧ isWord c = true
  ends : EndsSolid t
  operand : ∃ as, IsOperand t as

/-- A beginning of inert characters, of which the first is a word character,
and an operand after it. -/
theorem shape_append {u t : Text} {as : List Token}
    (hstart : ∃ c rest, u = c :: rest ∧ isWord c = true) (hu : ∀ c ∈ u, isInert c = true)
    (hne : t ≠ []) (hend : EndsSolid t) (ht : IsOperand t as) : Shape (u ++ t) where
  starts := by
    obtain ⟨c, rest, rfl, hc⟩ := hstart
    exact ⟨c, rest ++ t, rfl, hc⟩
  ends := hend.append hne
  operand := ⟨_, ht.append_inert hu⟩

theorem starts_of_isName {t : Text} (h : t.isName = true) :
    (∃ c rest, t = c :: rest ∧ isWord c = true) ∧ ∀ c ∈ t, isInert c = true := by
  obtain ⟨hne, hall⟩ := isName_iff.1 h
  obtain ⟨c, rest, rfl⟩ := List.exists_cons_of_ne_nil hne
  exact ⟨⟨c, rest, rfl, hall c List.mem_cons_self⟩, fun d hd => isInert_of_isWord (hall d hd)⟩

theorem starts_append {u v : Text} (h : ∃ c rest, u = c :: rest ∧ isWord c = true) :
    ∃ c rest, u ++ v = c :: rest ∧ isWord c = true := by
  obtain ⟨c, rest, rfl, hc⟩ := h
  exact ⟨c, rest ++ v, rfl, hc⟩

theorem forall_inert_append {u v : Text} (hu : ∀ c ∈ u, isInert c = true)
    (hv : ∀ c ∈ v, isInert c = true) : ∀ c ∈ u ++ v, isInert c = true := by
  intro c hc
  rcases List.mem_append.1 hc with hc | hc
  · exact hu c hc
  · exact hv c hc

theorem forall_inert_of_allBlank {b : Text} (hb : b.allBlank = true) :
    ∀ c ∈ b, isInert c = true :=
  fun c hc => isInert_of_isBlank (allBlank_iff.1 hb c hc)

theorem shape_of_ofEventState? {t : Text} {l : Leaf} (h : ofEventState? t = some l) :
    Shape t := by
  obtain ⟨name, state, hisName, hword, rfl, -⟩ := ofEventState?_eq_some_iff.1 h
  obtain ⟨hstart, hinert⟩ := starts_of_isName hisName
  have hsolid : '.' :: state ≠ [] ∧ EndsSolid ('.' :: state) ∧
      ∀ c ∈ '.' :: state, isInert c = true := by
    rcases hword with rfl | rfl
    · exact ⟨List.cons_ne_nil _ _, endsSolid_of_all (by decide), by decide⟩
    · exact ⟨List.cons_ne_nil _ _, endsSolid_of_all (by decide), by decide⟩
  exact shape_append hstart hinert hsolid.1 hsolid.2.1 (isOperand_of_inert hsolid.2.2)

theorem exists_of_restOfLine? {t rest : Text} (h : t.restOfLine? = some rest) :
    ∃ b, b.allBlank = true ∧ t = b ++ rest := by
  obtain ⟨b, hb, heq⟩ := exists_dropBlank t
  simp only [restOfLine?] at h
  split at h
  · cases h
  · cases h
    exact ⟨b, hb, heq⟩

theorem inert_label (s : Sign) : ∀ c ∈ s.label, isInert c = true := by
  cases s <;> decide

theorem shape_of_ofComparison {t : Text} {l : Leaf} (h : ofComparison t = .ok l) : Shape t := by
  obtain ⟨name, sign, operand, threshold, hcomparison, hoperand, -⟩ := ofComparison_eq_ok_iff.1 h
  simp only [comparison?, Option.bind_eq_bind, Option.bind_eq_some_iff, Prod.exists,
    Option.some.injEq, Prod.mk.injEq] at hcomparison
  obtain ⟨_, rest, hname, _, _, hsign, rfl, rfl, rfl⟩ := hcomparison
  obtain ⟨hisName, rfl, -⟩ := leadingName?_eq_some_iff.1 hname
  obtain ⟨s, -, hs⟩ := List.exists_of_findSome?_eq_some hsign
  obtain ⟨_, hleft, heq⟩ := Option.map_eq_some_iff.1 hs
  obtain ⟨rfl, rfl⟩ := Prod.mk.inj heq
  obtain ⟨after, hafter, hrest⟩ := Option.bind_eq_some_iff.1 hleft
  obtain ⟨b, hb, hblank⟩ := exists_dropBlank rest
  obtain ⟨b', hb', rfl⟩ := exists_of_restOfLine? hrest
  rw [dropPrefix?_eq_some_iff.1 hafter] at hblank
  obtain ⟨hstart, hinert⟩ := starts_of_isName hisName
  obtain ⟨hne, hend, as, has⟩ := Literal.shape_of_ofText hoperand
  have hfront := forall_inert_append (forall_inert_append (forall_inert_append hinert
    (forall_inert_of_allBlank hb)) (inert_label s)) (forall_inert_of_allBlank hb')
  have hshape := shape_append (starts_append (starts_append (starts_append hstart))) hfront hne
    hend has
  rw [hblank]
  simpa only [List.append_assoc] using hshape

theorem shape_of_call {m : Method} {t : Text} {format : List (List ArgumentType)}
    {args : List Argument} (h : m.call t format = .ok args) : Shape t := by
  obtain ⟨inner, hgroup⟩ := Method.exists_group_of_call h
  obtain ⟨rest, rfl, hrest⟩ := balanced_of_group? hgroup
  obtain ⟨hstart, hinert⟩ := starts_of_isName m.isName_label
  obtain ⟨hne, -, hend⟩ := hrest.solid_of_literal
  exact shape_append hstart hinert hne hend (isOperand_literal hrest)

theorem shape_of_ofLike {t : Text} {l : Leaf} (h : ofLike t = .ok l) : Shape t := by
  obtain ⟨args, hargs, -⟩ := Except.bind_eq_ok_iff.1 h
  exact shape_of_call hargs

theorem shape_of_ofRange {t : Text} {l : Leaf} (h : ofRange t = .ok l) : Shape t := by
  obtain ⟨args, hargs, -⟩ := Except.bind_eq_ok_iff.1 h
  exact shape_of_call hargs

theorem shape_of_negated? {t inner : Text} (h : negated? t = some inner) (hinner : Shape inner) :
    Shape t := by
  obtain ⟨after, hafter, hrest⟩ := Option.bind_eq_some_iff.1 h
  obtain ⟨rest, hword, hblanks⟩ := Option.bind_eq_some_iff.1 hafter
  obtain rfl := dropPrefix?_eq_some_iff.1 hword
  obtain ⟨b', hb', rfl⟩ := exists_of_restOfLine? hrest
  obtain ⟨b, hb, hblank⟩ := exists_dropBlank rest
  have hdrop : rest.dropBlank = b' ++ inner := by
    unfold afterBlanks? at hblanks
    split at hblanks
    · split at hblanks
      · exact Option.some.inj hblanks
      · cases hblanks
    · cases hblanks
  rw [hdrop] at hblank
  obtain ⟨⟨c, more, hcons, -⟩, hend, as, has⟩ := hinner
  have hne : inner ≠ [] := by
    rw [hcons]
    exact List.cons_ne_nil c more
  have hfront := forall_inert_append (forall_inert_append
    (show ∀ c ∈ "not".toList, isInert c = true by decide) (forall_inert_of_allBlank hb))
    (forall_inert_of_allBlank hb')
  have hshape := shape_append (starts_append (starts_append
    ⟨'n', ['o', 't'], rfl, by decide⟩)) hfront hne hend has
  rw [hblank, ← List.append_assoc, ← List.append_assoc]
  exact hshape

/-- The text of a leaf that was read has the shape of one. -/
theorem shape_of_ofText {t : Text} {l : Leaf} (h : ofText t = .ok l) : Shape t := by
  refine ofText_induct (fun t _ => Shape t) ?state ?comparison ?like ?range ?negation h
  case state => exact shape_of_ofEventState?
  case comparison => exact fun _ h => shape_of_ofComparison h
  case like => exact fun _ _ _ h => shape_of_ofLike h
  case range => exact fun _ _ _ _ h => shape_of_ofRange h
  case negation => exact fun _ _ _ _ hinner _ ih => shape_of_negated? hinner ih

end Leaf

end Overlay
