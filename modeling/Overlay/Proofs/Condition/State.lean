import Overlay.Proofs.Condition.Grammar
import Overlay.Proofs.Condition.RoundTrip
import Overlay.Proofs.Condition.Written
import Overlay.Proofs.Rule.Call

/-!
Conditions on the states of events. The reader has one grammar for all conditions, so
those on states are the part of it whose leaves are of certain forms: with two forms for a
state it has exactly the texts from which a condition on states is read.
-/

namespace Overlay

open Text

namespace Condition

section

variable {P Q : Text → Leaf → Prop}

mutual

/-- The form may be changed at the leaves. -/
theorem Written.mono {place : Place} {c : Condition} {t : Text} :
    Written P place c t → (∀ {u l}, u <:+: t → l ∈ c.leaves → P u l → Q u l) → Written Q place c t
  | .leaf h, hPQ => .leaf (hPQ (List.infix_refl _) (List.mem_singleton_self _) h)
  | .node hplace hcut h, hPQ =>
      .node hplace hcut (h.mono fun hu hc hl => hPQ hu (mem_leaves_node.2 ⟨_, hc, hl⟩))
  | @Written.parens _ _ _ b t b' hb hb' h, hPQ =>
      .parens hb hb' (h.mono fun hu hl => hPQ (hu.trans ⟨'(' :: b, b' ++ [')'], by simp⟩) hl)

theorem WrittenAll.mono {k : Connective} {cs : List Condition} {t : Text} :
    WrittenAll P k cs t → (∀ {u c l}, u <:+: t → c ∈ cs → l ∈ c.leaves → P u l → Q u l) →
      WrittenAll Q k cs t
  | .last h, hPQ => .last (h.mono fun hu hl => hPQ hu (List.mem_singleton_self _) hl)
  | @WrittenAll.cons _ _ _ _ s b b' t hs hb hb' ht, hPQ => .cons
      (hs.mono fun hu hl => hPQ (hu.trans ⟨[], b ++ k.sign ++ b' ++ t, by simp⟩)
        List.mem_cons_self hl) hb hb'
      (ht.mono fun hu hc hl => hPQ (hu.trans ⟨s ++ b ++ k.sign ++ b', [], by simp⟩)
        (List.mem_cons_of_mem _ hc) hl)

end

mutual

theorem Written.forall_leaves {place : Place} {c : Condition} {t : Text} {R : Leaf → Prop}
    (hP : ∀ {u l}, P u l → R l) : Written P place c t → ∀ l ∈ c.leaves, R l
  | .leaf h => List.forall_mem_singleton.2 (hP h)
  | .node _ _ h => fun _ hl =>
      have ⟨c, hc, hlc⟩ := mem_leaves_node.1 hl
      h.forall_leaves hP c hc _ hlc
  | .parens _ _ h => h.forall_leaves hP

theorem WrittenAll.forall_leaves {k : Connective} {cs : List Condition} {t : Text}
    {R : Leaf → Prop} (hP : ∀ {u l}, P u l → R l) :
    WrittenAll P k cs t → ∀ c ∈ cs, ∀ l ∈ c.leaves, R l
  | .last h => List.forall_mem_singleton.2 (h.forall_leaves hP)
  | .cons hs _ _ ht => List.forall_mem_cons.2 ⟨hs.forall_leaves hP, ht.forall_leaves hP⟩

end

end

end Condition

/-! States of events. -/

/-- The words for the states of an event. -/
def IsStateWord (word : Text) : Prop := word = "on".toList ∨ word = "off".toList

theorem IsStateWord.isName {word : Text} (h : IsStateWord word) : word.isName = true := by
  rcases h with rfl | rfl <;> decide

/-- Whether a test asks for a state, under any number of negations. -/
inductive Test.AsksState : Test → Prop
  | state {word : Text} : IsStateWord word → AsksState (.compare .eq (.string word))
  | negation {test : Test} : AsksState test → AsksState (.negation test)

namespace Leaf

/-- A name, a point and a state. -/
def IsPointed (t : Text) (l : Leaf) : Prop :=
  ∃ name word, name.isName = true ∧ IsStateWord word ∧ t = name ++ '.' :: word ∧
    l = ⟨name, .compare .eq (.string word)⟩

/-- A name, two equals signs and a state in quotes, with any blanks between them. -/
def IsEquated (t : Text) (l : Leaf) : Prop :=
  ∃ name word, IsStateWord word ∧ IsComparison name .eq ('"' :: word ++ ['"']) t ∧
    l = ⟨name, .compare .eq (.string word)⟩

/-- The texts of one form and those with `not` and blanks before them, any number of times. -/
inductive UnderNots (P : Text → Leaf → Prop) : Text → Leaf → Prop
  | self {t : Text} {l : Leaf} : P t l → UnderNots P t l
  | negation {b t : Text} {l : Leaf} : b ≠ [] → b.allBlank = true → UnderNots P t l →
      UnderNots P ("not".toList ++ b ++ t) l.negate

/-- The texts of leaves that ask for the state of an event. -/
def IsState : Text → Leaf → Prop := UnderNots fun t l => IsPointed t l ∨ IsEquated t l

theorem asksState_of_isState {t : Text} {l : Leaf} (h : IsState t l) : l.test.AsksState := by
  induction h with
  | self h =>
      rcases h with ⟨name, word, -, hword, -, rfl⟩ | ⟨name, word, hword, -, rfl⟩
      · exact .state hword
      · exact .state hword
  | negation _ _ _ ih => exact .negation ih

end Leaf

theorem Text.unescape_eq_self {t : Text} (h : '"' ∉ unescape t) : unescape t = t := by
  fun_induction unescape t with
  | case1 => rfl
  | case2 => simp at h
  | case3 c rest _ ih => rw [ih fun hmem => h (List.mem_cons_of_mem c hmem)]

theorem Literal.unquote?_of_ofText {t s : Text} (h : ofText t = .ok (.string s)) :
    t.unquote? = some s := by
  revert h
  simp only [ofText, ArgumentType.convertFirst?, ArgumentType.literal, ArgumentType.convert?,
    List.findSome?_cons, List.findSome?_nil]
  cases t.integer? <;> cases t.float? <;> cases t.unquote? <;> simp [Argument.literal?]

/-- A state is a literal in one way only, since it has nothing to escape. -/
theorem Literal.eq_of_ofText_state {t word : Text} (hword : IsStateWord word)
    (h : ofText t = .ok (.string word)) : t = '"' :: word ++ ['"'] := by
  obtain ⟨body, -, rfl, rfl⟩ := unquote?_eq_some_iff.1 (unquote?_of_ofText h)
  have hquote : '"' ∉ unescape body := by
    rcases hword with heq | heq <;> rw [heq] <;> decide
  rw [unescape_eq_self hquote]

namespace Leaf

theorem isState_of_ofText {t : Text} {l : Leaf} (h : ofText t = .ok l) :
    l.test.AsksState → IsState t l := by
  refine ofText_induct (fun t l => l.test.AsksState → IsState t l)
    ?state ?comparison ?like ?range ?negation h
  case state => exact fun h _ => .self (.inl (ofEventState?_eq_some_iff.1 h))
  case comparison =>
    intro t l _ h hasks
    obtain ⟨name, sign, operand, threshold, hcomparison, -, hthreshold, rfl⟩ :=
      ofComparison_eq_ok_iff_isComparison.1 h
    cases hasks with
    | state hword =>
        rw [Literal.eq_of_ofText_state hword hthreshold] at hcomparison
        exact .self (.inr ⟨name, _, hword, hcomparison, rfl⟩)
  case like =>
    intro t l _ _ _ h hasks
    simp only [ofLike, Except.bind_eq_ok_iff, Except.pure_eq_ok_iff] at h
    obtain ⟨_, -, _, -, _, -, _, -, rfl⟩ := h
    cases hasks
  case range =>
    intro t l _ _ _ _ h hasks
    obtain ⟨_, _, _, _, -, -, -, -, -, -, rfl⟩ := ofRange_eq_ok_iff.1 h
    cases hasks
  case negation =>
    intro t inner l _ _ _ _ h _ ih hasks
    obtain ⟨-, -, -, b, hne, hb, rfl⟩ := negated?_eq_some_iff.1 h
    cases hasks with
    | negation hasks => exact .negation hne hb (ih hasks)

/-- The texts of one form that are read are read under negations too, on one line. -/
theorem UnderNots.ofText {P : Text → Leaf → Prop} {t : Text} {l : Leaf} (h : UnderNots P t l)
    (hP : ∀ {u l}, P u l → Leaf.ofText u = .ok l) (hline : '\n' ∉ t) : Leaf.ofText t = .ok l := by
  induction h with
  | self h => exact hP h
  | negation hne hb _ ih =>
      obtain ⟨-, hline⟩ := not_or.1 (mt List.mem_append.2 hline)
      exact ofText_not (ih hline) hline hne hb

theorem ofText_of_isPointed {t : Text} {l : Leaf} (h : IsPointed t l) : ofText t = .ok l := by
  rw [Leaf.ofText, ofEventState?_eq_some_iff.2 h]

end Leaf

/-- The leaves of a condition ask for states exactly if all of its leaves were written so. -/
theorem Condition.Renders.forall_asksState_iff {place : Place} {c : Condition} {t : Text}
    (h : Renders place c t) :
    (∀ l ∈ c.leaves, l.test.AsksState) ↔ Written Leaf.IsState place c t :=
  ⟨fun hasks => h.mono fun _ hl hread => Leaf.isState_of_ofText hread (hasks _ hl),
    fun hwritten => hwritten.forall_leaves Leaf.asksState_of_isState⟩

end Overlay
