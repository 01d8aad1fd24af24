import Overlay.Proofs.Condition.Written

/-!
The forms of a leaf, and the order in which they are tried. A name can be any word, so
`not == 3`, `like.on` and `not not.on` are leaves, and the words alone do not tell the
forms apart. What comes after the leading name does: a point, a bracket, a sign, or blanks
and another word. So for each text there is one form at most to try, and no order of
trying them gives another leaf.
-/

namespace Overlay

open Text

namespace Leaf

/-- The forms in which a leaf is written. -/
inductive Form
  | state
  | comparison
  | like
  | range
  | negation
  deriving DecidableEq

namespace Form

/-- Reads a text in one form, without a look at the others. -/
def read (f : Form) (t : Text) : Except Fault Leaf :=
  match f with
  | state =>
    match ofEventState? t with
    | some l => .ok l
    | none => .error (.noCondition t)
  | comparison => ofComparison t
  | like => ofLike t
  | range => ofRange t
  | negation =>
    match negated? t with
    | some negated => (ofText negated).map negate
    | none => .error (.noCondition t)

/-- The only form that a text with this leading name and this rest can have. -/
def ofRest? (name rest : Text) : Option Form :=
  if rest.head? = some '.' then some state
  else if rest.head? = some '(' then
    if name = Method.like.label then some like
    else if name = Method.range.label then some range
    else none
  else if (Sign.leading? rest.dropBlank).isSome then some comparison
  else if name = "not".toList then some negation
  else none

/-- The only form that a text can have. -/
def of? (t : Text) : Option Form := t.leadingName?.bind fun p => ofRest? p.1 p.2

end Form

/-! What the probes of the reader find, by the leading name of a text and its rest. -/

section Probes

variable {t name rest : Text}

theorem ofEventState?_eq_none (h : t.leadingName? = some (name, rest))
    (hdot : rest.head? ≠ some '.') : ofEventState? t = none := by
  have hprefix : dropPrefix? ['.'] rest = none := by
    cases rest with
    | nil => rfl
    | cons c rest =>
        have hc : '.' ≠ c := fun heq => hdot (congrArg some heq.symm)
        simp [dropPrefix?, hc]
  simp only [ofEventState?, h, Option.bind_eq_bind, Option.bind_some, hprefix, Option.bind_none]

theorem isSome_comparison? (h : t.leadingName? = some (name, rest)) :
    (comparison? t).isSome = (Sign.leading? rest.dropBlank).isSome := by
  simp only [comparison?, h, Option.bind_eq_bind, Option.bind_some]
  cases Sign.leading? rest.dropBlank <;> rfl

theorem isCalledBy_iff (h : t.leadingName? = some (name, rest)) (m : Method) :
    m.isCalledBy t = true ↔ rest.head? = some '(' ∧ name = m.label := by
  simp only [Method.isCalledBy, Method.ofCall?, h, Option.bind_eq_bind, Option.bind_some,
    beq_iff_eq]
  split
  · next hopen =>
    constructor
    · exact fun hm => ⟨hopen, (Method.label_of_ofName? hm).symm⟩
    · rintro ⟨-, rfl⟩
      exact Method.ofName?_label m
  · next hopen => simp [hopen]

/-- After a point or a bracket there is no sign. -/
theorem leading?_of_head? (h : rest.head? = some '.' ∨ rest.head? = some '(') :
    Sign.leading? rest.dropBlank = none := by
  cases rest with
  | nil => rfl
  | cons c rest =>
      have hc : c = '.' ∨ c = '(' := by simpa using h
      rcases hc with rfl | rfl
      · rw [dropBlank_of_startsSolid (startsSolid_cons.2 (by decide))]
        simp [Sign.leading?, Sign.all, Sign.operand?, Sign.label, Sign.token, dropPrefix?]
      · rw [dropBlank_of_startsSolid (startsSolid_cons.2 (by decide))]
        simp [Sign.leading?, Sign.all, Sign.operand?, Sign.label, Sign.token, dropPrefix?]

/-- The word `not` is a leading name, with blanks after it. -/
theorem leadingName?_of_negated? {inner : Text} (h : negated? t = some inner) :
    ∃ d b, isBlank d = true ∧ t.leadingName? = some ("not".toList, d :: b ++ inner) ∧
      dropBlank (d :: b ++ inner) = inner := by
  obtain ⟨-, hstart, -, b, hne, hb, rfl⟩ := negated?_eq_some_iff.1 h
  obtain ⟨d, b, rfl⟩ := List.exists_cons_of_ne_nil hne
  have hd := (allBlank_cons.1 hb).1
  refine ⟨d, b, hd, ?_, ?_⟩
  · exact leadingName?_eq_some_iff.2
      ⟨by decide, by simp, endsWord_cons.2 (isWord_eq_false_of_isBlank hd)⟩
  · rw [dropBlank_append hb, dropBlank_of_startsSolid hstart]

theorem negated?_eq_none (h : t.leadingName? = some (name, rest))
    (hnot : name ≠ "not".toList ∨ rest.head? = some '.' ∨ rest.head? = some '(') :
    negated? t = none := by
  refine Option.eq_none_iff_forall_ne_some.2 fun inner hinner => ?_
  obtain ⟨d, b, hd, hname, -⟩ := leadingName?_of_negated? hinner
  rw [h] at hname
  cases hname
  rcases hnot with hnot | hhead | hhead
  · exact hnot rfl
  -- The character after the name is blank.
  all_goals
    cases hhead
    exact absurd hd (by decide)

end Probes

/-- The reader tries negations last. -/
theorem ofText_eq (t : Text) : ofText t =
    match ofEventState? t with
    | some l => .ok l
    | none =>
      if (comparison? t).isSome then ofComparison t
      else if Method.like.isCalledBy t then ofLike t
      else if Method.range.isCalledBy t then ofRange t
      else Form.negation.read t := by
  rw [ofText]
  simp only [Form.read]
  cases ofEventState? t with
  | some l => rfl
  | none => cases hnegated : negated? t <;> rfl

/-- A text without a leading name has no form. -/
theorem ofText_of_leadingName?_eq_none {t : Text} (h : t.leadingName? = none) :
    ofText t = .error (.noCondition t) := by
  have hstate : ofEventState? t = none := by simp [ofEventState?, h]
  have hcomparison : comparison? t = none := by simp [comparison?, h]
  have hcall (m : Method) : m.isCalledBy t = false := by
    simp [Method.isCalledBy, Method.ofCall?, h]
  have hnegated : negated? t = none := by
    refine Option.eq_none_iff_forall_ne_some.2 fun inner hinner => ?_
    obtain ⟨d, b, -, hname, -⟩ := leadingName?_of_negated? hinner
    rw [h] at hname
    cases hname
  rw [ofText_eq]
  simp [hstate, hcomparison, hcall, Form.read, hnegated]

/-- What comes after the leading name selects the form that is read. -/
theorem ofText_of_leadingName? {t name rest : Text} (h : t.leadingName? = some (name, rest)) :
    ofText t =
      match Form.ofRest? name rest with
      | some f => f.read t
      | none => .error (.noCondition t) := by
  have hcalled := isCalledBy_iff h
  rw [ofText_eq, Form.ofRest?, isSome_comparison? h]
  by_cases hdot : rest.head? = some '.'
  · have hopen : rest.head? ≠ some '(' := by simp [hdot]
    have hnegated := negated?_eq_none h (.inr (.inl hdot))
    rw [if_pos hdot, leading?_of_head? (.inl hdot)]
    cases hstate : ofEventState? t <;> simp [Form.read, hcalled, hopen, hnegated, hstate]
  rw [if_neg hdot, ofEventState?_eq_none h hdot]
  by_cases hopen : rest.head? = some '('
  · have hnegated := negated?_eq_none h (.inr (.inr hopen))
    rw [if_pos hopen, leading?_of_head? (.inr hopen)]
    by_cases hlike : name = Method.like.label
    · simp [hcalled, hopen, hlike, Form.read]
    rw [if_neg hlike]
    by_cases hrange : name = Method.range.label
    · have hother : Method.range.label ≠ Method.like.label := by decide
      simp [hcalled, hopen, hrange, hother, Form.read]
    · simp [hcalled, hopen, hlike, hrange, Form.read, hnegated]
  rw [if_neg hopen]
  by_cases hsign : (Sign.leading? rest.dropBlank).isSome = true
  · simp [hsign, Form.read]
  by_cases hnot : name = "not".toList
  · simp [hcalled, hopen, hsign, hnot, Form.read]
  · have hnegated := negated?_eq_none h (.inl hnot)
    rw [if_neg hnot]
    simp [hcalled, hopen, hsign, Form.read, hnegated]

/-- To read a leaf is to read it in its only form. -/
theorem ofText_eq_read (t : Text) : ofText t =
    match Form.of? t with
    | some f => f.read t
    | none => .error (.noCondition t) := by
  cases hname : t.leadingName? with
  | none => rw [ofText_of_leadingName?_eq_none hname, Form.of?, hname]; rfl
  | some p => rw [ofText_of_leadingName? hname, Form.of?, hname]; rfl

example : Form.of? "not == 3".toList = some .comparison := by decide +kernel

example : Form.of? "not not.on".toList = some .negation := by decide +kernel

namespace Form

variable {t : Text}

theorem leadingName?_of_call {m : Method} {format : List (List ArgumentType)}
    {args : List Argument} (h : m.call t format = .ok args) :
    ∃ rest, t.leadingName? = some (m.label, rest) ∧ rest.head? = some '(' := by
  obtain ⟨inner, hgroup⟩ := Method.exists_group_of_call h
  obtain ⟨rfl, -⟩ := Method.eq_of_group? hgroup
  exact ⟨_, leadingName?_eq_some_iff.2 ⟨m.isName_label, rfl, endsWord_cons.2 (by decide)⟩, rfl⟩

theorem of?_of_ofEventState? {l : Leaf} (h : ofEventState? t = some l) : of? t = some state := by
  obtain ⟨name, word, hname, -, rfl, -⟩ := ofEventState?_eq_some_iff.1 h
  have hleading : leadingName? (name ++ '.' :: word) = some (name, '.' :: word) :=
    leadingName?_eq_some_iff.2 ⟨hname, rfl, endsWord_cons.2 (by decide)⟩
  rw [of?, hleading]
  rfl

theorem of?_of_comparison? (h : (comparison? t).isSome = true) : of? t = some comparison := by
  cases hname : t.leadingName? with
  | none => simp [comparison?, hname] at h
  | some p =>
      obtain ⟨name, rest⟩ := p
      rw [isSome_comparison? hname] at h
      have hhead : ¬(rest.head? = some '.' ∨ rest.head? = some '(') := by
        intro hhead
        rw [leading?_of_head? hhead] at h
        cases h
      obtain ⟨hdot, hopen⟩ := not_or.1 hhead
      simp [of?, ofRest?, hname, hdot, hopen, h]

/-- What is negated begins with a word character, so `not` is not compared to it. -/
theorem of?_of_negated? {inner : Text} {l : Leaf} (h : negated? t = some inner)
    (hinner : ofText inner = .ok l) : of? t = some negation := by
  obtain ⟨c, rest, rfl, hc⟩ := (shape_of_ofText hinner).starts
  obtain ⟨d, b, hd, hname, hdrop⟩ := leadingName?_of_negated? h
  have hne {e : Char} (he : isBlank e = false) : d ≠ e := by
    rintro rfl
    exact Bool.noConfusion (hd.symm.trans he)
  have hdot : d ≠ '.' := hne (by decide)
  have hopen : d ≠ '(' := hne (by decide)
  have hsign : Sign.leading? (dropBlank (d :: b ++ c :: rest)) = none := by
    rw [hdrop, Sign.leading?_eq_none hc]
  rw [of?, hname]
  simp only [Option.bind_some, ofRest?, hsign]
  simp [hdot, hopen]

/-- A form that succeeds alone is the only form of the text. -/
theorem of?_of_read {f : Form} {l : Leaf} (h : f.read t = .ok l) : of? t = some f := by
  cases f with
  | state =>
      simp only [read] at h
      split at h
      · next hstate => exact of?_of_ofEventState? hstate
      · cases h
  | comparison =>
      obtain ⟨_, _, _, _, hcomparison, -, -⟩ := ofComparison_eq_ok_iff.1 h
      exact of?_of_comparison? (Option.isSome_of_eq_some hcomparison)
  | like =>
      obtain ⟨args, hargs, -⟩ := Except.bind_eq_ok_iff.1 h
      obtain ⟨rest, hname, hopen⟩ := leadingName?_of_call hargs
      simp [of?, ofRest?, hname, hopen]
  | range =>
      obtain ⟨args, hargs, -⟩ := Except.bind_eq_ok_iff.1 h
      obtain ⟨rest, hname, hopen⟩ := leadingName?_of_call hargs
      have hother : Method.range.label ≠ Method.like.label := by decide
      simp [of?, ofRest?, hname, hopen, hother]
  | negation =>
      simp only [read] at h
      split at h
      · next hnegated =>
        obtain ⟨_, hinner, -⟩ := Except.map_eq_ok_iff.1 h
        exact of?_of_negated? hnegated hinner
      · cases h

end Form

theorem ofText_eq_ok_iff_exists_read {t : Text} {l : Leaf} :
    ofText t = .ok l ↔ ∃ f : Form, f.read t = .ok l := by
  rw [ofText_eq_read]
  constructor
  · intro h
    split at h
    · next f _ => exact ⟨f, h⟩
    · cases h
  · rintro ⟨f, h⟩
    rw [Form.of?_of_read h]
    exact h

theorem Form.eq_of_read {f g : Form} {t : Text} {l l' : Leaf} (hf : f.read t = .ok l)
    (hg : g.read t = .ok l') : f = g :=
  Option.some.inj ((of?_of_read hf).symm.trans (of?_of_read hg))

/-- Trying the forms in any order finds what the reader finds. -/
theorem Form.findSome?_read {order : List Form} (horder : ∀ f, f ∈ order) (t : Text) :
    order.findSome? (fun f => (f.read t).toOption) = (ofText t).toOption := by
  cases hread : ofText t with
  | ok l =>
      obtain ⟨f, hf⟩ := ofText_eq_ok_iff_exists_read.1 hread
      have hfound : (order.findSome? fun f => (f.read t).toOption).isSome = true :=
        List.findSome?_isSome_iff.2
          ⟨f, horder f, Option.isSome_of_eq_some (Except.toOption_eq_some_iff.2 hf)⟩
      obtain ⟨l', hl'⟩ := Option.isSome_iff_exists.1 hfound
      -- The form that is found first is the one that reads the text.
      obtain ⟨g, -, hg⟩ := List.exists_of_findSome?_eq_some hl'
      obtain rfl := eq_of_read hf (Except.toOption_eq_some_iff.1 hg)
      rw [hl', ← hg, hf]
  | error e =>
      refine List.findSome?_eq_none_iff.2 fun f _ => ?_
      cases hf : f.read t with
      | ok l =>
          rw [ofText_eq_ok_iff_exists_read.2 ⟨f, hf⟩] at hread
          cases hread
      | error e => rfl

end Leaf

end Overlay
