import Overlay.Proofs.Arguments
import Overlay.Proofs.Condition.Form
import Overlay.Proofs.Condition.State
import Overlay.Proofs.Numeral

/-!
The texts of leaves, as a relation that does not speak of the order in which forms are
tried. Each test has its own way to be written, and a name may be any word, also one that
begins another form. A leaf is read exactly from its texts, so no text is that of two
leaves, and every test of a literal that can be written at all has a text of one line.
-/

namespace Overlay

open Text

theorem Literal.isWritten_iff_convertFirst? {t : Text} {l : Literal} :
    l.IsWritten t ↔ ∃ a, ArgumentType.convertFirst? ArgumentType.literal t = some a ∧
      a.literal? = some l := by
  rw [← ofText_eq_ok_iff_isWritten, ofText, ← Option.bind_eq_some_iff]
  cases (ArgumentType.convertFirst? ArgumentType.literal t).bind Argument.literal? <;> simp

namespace Leaf

theorem readPattern_eq_ok_iff {source : Text} {p : Pattern} :
    readPattern source = .ok p ↔ p.source = source := by
  constructor
  · unfold readPattern
    split
    · next hp =>
      rintro ⟨⟩
      exact Pattern.source_of_ofText? hp
    · rintro ⟨⟩
  · rintro rfl
    rw [readPattern, Pattern.ofText?_source]

/-- A call of `like` is read exactly from a name and the literal of a pattern. -/
theorem ofLike_eq_ok_iff_isWritten {t : Text} {l : Leaf} :
    ofLike t = .ok l ↔ ∃ name pattern, name.isName = true ∧
      pattern.source.getLast? ≠ some '\\' ∧
      Method.like.IsWritten [name, literalOf pattern.source] t ∧ l = ⟨name, .like pattern⟩ := by
  simp only [ofLike, Except.bind_eq_ok_iff, Except.pure_eq_ok_iff, readPattern_eq_ok_iff]
  constructor
  · rintro ⟨args, hcall, name, hname, source, hsource, pattern, rfl, rfl⟩
    obtain ⟨ts, hwritten, hlen, hargs⟩ :=
      (Method.call_eq_ok_iff_isWritten (List.cons_ne_nil _ _) (by decide)).1 hcall
    obtain ⟨nameText, literal, rfl⟩ := List.length_eq_two.1 hlen
    obtain ⟨a, _, ha, hrest, rfl⟩ := List.forall₂_cons_left_iff.1 hargs
    obtain ⟨b, _, hb, hnil, rfl⟩ := List.forall₂_cons_left_iff.1 hrest
    cases hnil
    obtain ⟨hisName, rfl⟩ := Method.converts_dataName_iff.1 ha
    obtain ⟨s, hs, rfl⟩ := Method.converts_string_iff.1 hb
    cases hname
    cases hsource
    cases Literal.isWritten_string_iff.2 hs with
    | string hlast => exact ⟨_, pattern, hisName, hlast, hwritten, rfl⟩
  · rintro ⟨name, pattern, hname, hlast, hwritten, rfl⟩
    have hliteral := Literal.isWritten_string_iff.1 (.string hlast)
    have hcall : Method.like.call t [[.dataName], [.string]] =
        .ok [.dataName name, .string pattern.source] :=
      (Method.call_eq_ok_iff_isWritten (List.cons_ne_nil _ _) (by decide)).2
        ⟨_, hwritten, rfl, .cons (Method.converts_dataName_iff.2 ⟨hname, rfl⟩)
          (.cons (Method.converts_string_iff.2 ⟨_, hliteral, rfl⟩) .nil)⟩
    exact ⟨_, hcall, name, rfl, pattern.source, rfl, pattern, rfl, rfl⟩

/-- A call of `range` is read exactly from a name and two literals of one type, in order. -/
theorem ofRange_eq_ok_iff_isWritten {t : Text} {l : Leaf} :
    ofRange t = .ok l ↔ ∃ name low high lowText highText, name.isName = true ∧
      low.IsWritten lowText ∧ high.IsWritten highText ∧ low.sameType high = true ∧
      inOrder low high = true ∧ Method.range.IsWritten [name, lowText, highText] t ∧
      l = ⟨name, .range low high⟩ := by
  rw [ofRange_eq_ok_iff]
  constructor
  · rintro ⟨args, name, low, high, hcall, hname, hlow, hhigh, htype, horder, rfl⟩
    obtain ⟨ts, hwritten, hlen, hargs⟩ :=
      (Method.call_eq_ok_iff_isWritten (List.cons_ne_nil _ _) (by decide)).1 hcall
    obtain ⟨nameText, lowText, highText, rfl⟩ := List.length_eq_three.1 hlen
    obtain ⟨a, _, ha, hrest, rfl⟩ := List.forall₂_cons_left_iff.1 hargs
    obtain ⟨b, _, hb, hlast, rfl⟩ := List.forall₂_cons_left_iff.1 hrest
    obtain ⟨c, _, hc, hnil, rfl⟩ := List.forall₂_cons_left_iff.1 hlast
    cases hnil
    obtain ⟨hisName, rfl⟩ := Method.converts_dataName_iff.1 ha
    cases hname
    obtain ⟨_, hb', hlow⟩ := Argument.nth_eq_ok_iff.1 hlow
    obtain ⟨_, hc', hhigh⟩ := Argument.nth_eq_ok_iff.1 hhigh
    cases hb'
    cases hc'
    exact ⟨_, low, high, lowText, highText, hisName,
      Literal.isWritten_iff_convertFirst?.2 ⟨_, hb, hlow⟩,
      Literal.isWritten_iff_convertFirst?.2 ⟨_, hc, hhigh⟩, htype, horder, hwritten, rfl⟩
  · rintro ⟨name, low, high, lowText, highText, hname, hlow, hhigh, htype, horder, hwritten, rfl⟩
    obtain ⟨b, hb, hlow⟩ := Literal.isWritten_iff_convertFirst?.1 hlow
    obtain ⟨c, hc, hhigh⟩ := Literal.isWritten_iff_convertFirst?.1 hhigh
    have hcall : Method.range.call t [[.dataName], ArgumentType.literal, ArgumentType.literal] =
        .ok [.dataName name, b, c] :=
      (Method.call_eq_ok_iff_isWritten (List.cons_ne_nil _ _) (by decide)).2
        ⟨_, hwritten, rfl, .cons (Method.converts_dataName_iff.2 ⟨hname, rfl⟩)
          (.cons hb (.cons hc .nil))⟩
    exact ⟨_, name, low, high, hcall, rfl, Argument.nth_eq_ok_iff.2 ⟨b, rfl, hlow⟩,
      Argument.nth_eq_ok_iff.2 ⟨c, rfl, hhigh⟩, htype, horder, rfl⟩

/-- The texts of a leaf. A comparison has a sign after the name and a literal of one line,
with any blanks between them; what is negated stands on one line after the word `not` and
blanks; and calls have any blanks around their arguments. -/
inductive IsRendering : Text → Leaf → Prop
  | state {name word : Text} : name.isName = true → IsStateWord word →
      IsRendering (name ++ '.' :: word) ⟨name, .compare .eq (.string word)⟩
  | comparison {name operand t : Text} {sign : Sign} {threshold : Literal} :
      IsComparison name sign operand t → threshold.IsWritten operand → '\n' ∉ operand →
      IsRendering t ⟨name, .compare sign threshold⟩
  | like {name t : Text} {pattern : Pattern} : name.isName = true →
      pattern.source.getLast? ≠ some '\\' →
      Method.like.IsWritten [name, literalOf pattern.source] t →
      IsRendering t ⟨name, .like pattern⟩
  | range {name lowText highText t : Text} {low high : Literal} : name.isName = true →
      low.IsWritten lowText → high.IsWritten highText → low.sameType high = true →
      inOrder low high = true → Method.range.IsWritten [name, lowText, highText] t →
      IsRendering t ⟨name, .range low high⟩
  | negation {b t : Text} {l : Leaf} : b ≠ [] → b.allBlank = true → '\n' ∉ t →
      IsRendering t l → IsRendering ("not".toList ++ b ++ t) l.negate

theorem isRendering_of_ofText {t : Text} {l : Leaf} (h : ofText t = .ok l) :
    IsRendering t l := by
  refine ofText_induct IsRendering ?state ?comparison ?like ?range ?negation h
  case state =>
    intro t l h
    obtain ⟨name, word, hname, hword, rfl, rfl⟩ := ofEventState?_eq_some_iff.1 h
    exact .state hname hword
  case comparison =>
    intro t l _ h
    obtain ⟨name, sign, operand, threshold, hcomparison, hline, hthreshold, rfl⟩ :=
      ofComparison_eq_ok_iff_isComparison.1 h
    exact .comparison hcomparison (Literal.ofText_eq_ok_iff_isWritten.1 hthreshold) hline
  case like =>
    intro t l _ _ _ h
    obtain ⟨name, pattern, hname, hlast, hwritten, rfl⟩ := ofLike_eq_ok_iff_isWritten.1 h
    exact .like hname hlast hwritten
  case range =>
    intro t l _ _ _ _ h
    obtain ⟨name, low, high, lowText, highText, hname, hlow, hhigh, htype, horder, hwritten, rfl⟩ :=
      ofRange_eq_ok_iff_isWritten.1 h
    exact .range hname hlow hhigh htype horder hwritten
  case negation =>
    intro t inner l _ _ _ _ h _ ih
    obtain ⟨-, -, hline, b, hne, hb, rfl⟩ := negated?_eq_some_iff.1 h
    exact .negation hne hb hline ih

/-- A leaf is read from each of its texts, as a text has one form only. -/
theorem IsRendering.ofText {t : Text} {l : Leaf} (h : IsRendering t l) : ofText t = .ok l := by
  induction h with
  | state hname hword => exact ofText_of_isPointed ⟨_, _, hname, hword, rfl, rfl⟩
  | comparison hcomparison hthreshold hline =>
      exact ofText_of_isComparison hcomparison hline
        (Literal.ofText_eq_ok_iff_isWritten.2 hthreshold)
  | like hname hlast hwritten =>
      exact ofText_eq_ok_iff_exists_read.2
        ⟨.like, ofLike_eq_ok_iff_isWritten.2 ⟨_, _, hname, hlast, hwritten, rfl⟩⟩
  | range hname hlow hhigh htype horder hwritten =>
      exact ofText_eq_ok_iff_exists_read.2 ⟨.range, ofRange_eq_ok_iff_isWritten.2
        ⟨_, _, _, _, _, hname, hlow, hhigh, htype, horder, hwritten, rfl⟩⟩
  | negation hne hb hline _ ih => exact ofText_not ih hline hne hb

end Leaf

/-! Leaves with a text of one line. -/

/-- Whether a test has a text of one line. -/
inductive Test.IsWritable : Test → Prop
  | compare {sign : Sign} {threshold : Literal} : threshold.IsWritable →
      IsWritable (.compare sign threshold)
  | like {pattern : Pattern} : (Literal.string pattern.source).IsWritable →
      IsWritable (.like pattern)
  | range {low high : Literal} : low.IsWritable → high.IsWritable → low.sameType high = true →
      Leaf.inOrder low high = true → IsWritable (.range low high)
  | negation {test : Test} : IsWritable test → IsWritable (.negation test)

namespace Leaf

theorem feed_not_mem_name {name : Text} (h : name.isName = true) : '\n' ∉ name :=
  not_mem_of_isName h (by decide)

theorem exists_isRendering {name : Text} (hname : name.isName = true) {test : Test}
    (h : test.IsWritable) : ∃ t, '\n' ∉ t ∧ IsRendering t ⟨name, test⟩ := by
  have hfeed := feed_not_mem_name hname
  induction h with
  | @compare sign threshold h =>
      obtain ⟨operand, hwritten, hline⟩ := Literal.isWritable_iff.1 h
      have hlabel : '\n' ∉ sign.label := by cases sign <;> decide
      refine ⟨name ++ [] ++ sign.label ++ [] ++ operand, by simp [hfeed, hlabel, hline],
        .comparison ⟨hname, [], [], allBlank_nil, allBlank_nil, rfl⟩ hwritten hline⟩
  | @like pattern h =>
      obtain ⟨hlast, hline⟩ := h
      have hliteral := mt Literal.feed_mem_literalOf_iff.1 hline
      have hlabel : '\n' ∉ Method.like.label := feed_not_mem_name Method.like.isName_label
      refine ⟨Method.like.callText [name, literalOf pattern.source], ?_,
        .like hname hlast (Method.isWritten_callText _ _)⟩
      simp [Method.callText, List.intercalate_cons_cons, hfeed, hliteral, hlabel]
  | @range low high hlow hhigh htype horder =>
      obtain ⟨lowText, hlow, hlowLine⟩ := Literal.isWritable_iff.1 hlow
      obtain ⟨highText, hhigh, hhighLine⟩ := Literal.isWritable_iff.1 hhigh
      have hlabel : '\n' ∉ Method.range.label := feed_not_mem_name Method.range.isName_label
      refine ⟨Method.range.callText [name, lowText, highText], ?_,
        .range hname hlow hhigh htype horder (Method.isWritten_callText _ _)⟩
      simp [Method.callText, List.intercalate_cons_cons, hfeed, hlowLine, hhighLine, hlabel]
  | negation _ ih =>
      obtain ⟨t, hline, ht⟩ := ih
      exact ⟨"not".toList ++ [' '] ++ t, by simp [hline],
        .negation (List.cons_ne_nil _ _) (by decide) hline ht⟩

theorem IsRendering.isWritable {t : Text} {l : Leaf} (h : IsRendering t l) (hline : '\n' ∉ t) :
    l.dataName.isName = true ∧ l.test.IsWritable := by
  induction h with
  | state hname hword =>
      refine ⟨hname, .compare ?_⟩
      rcases hword with rfl | rfl <;> exact ⟨by decide, by decide⟩
  | comparison hcomparison hthreshold hoperand =>
      exact ⟨hcomparison.1, .compare (Literal.isWritable_iff.2 ⟨_, hthreshold, hoperand⟩)⟩
  | like hname hlast hwritten =>
      refine ⟨hname, .like ⟨hlast, fun hfeed => hline ?_⟩⟩
      exact hwritten.mem (by simp) (Literal.feed_mem_literalOf_iff.2 hfeed)
  | @range _ lowText highText _ _ _ hname hlow hhigh htype horder hwritten =>
      have hlowLine : '\n' ∉ lowText := fun hfeed => hline (hwritten.mem (by simp) hfeed)
      have hhighLine : '\n' ∉ highText := fun hfeed => hline (hwritten.mem (by simp) hfeed)
      exact ⟨hname, .range (Literal.isWritable_iff.2 ⟨_, hlow, hlowLine⟩)
        (Literal.isWritable_iff.2 ⟨_, hhigh, hhighLine⟩) htype horder⟩
  | negation _ _ hinner _ ih =>
      obtain ⟨hname, htest⟩ := ih hinner
      exact ⟨hname, .negation htest⟩

/-- Leaves are read exactly from their texts. These are all leaves with a name and a test
that can be written, if only texts of one line count. A text is read in one form at most
when each form is tried alone, so trying them in any order finds what the reader finds. -/
theorem ofText_exact :
    (∀ t l, ofText t = .ok l ↔ IsRendering t l) ∧
    (∀ l : Leaf, (∃ t, '\n' ∉ t ∧ IsRendering t l) ↔
      l.dataName.isName = true ∧ l.test.IsWritable) ∧
    (∀ (f g : Form) t l l', f.read t = .ok l → g.read t = .ok l' → f = g) ∧
    (∀ order : List Form, (∀ f, f ∈ order) → ∀ t,
      order.findSome? (fun f => (f.read t).toOption) = (ofText t).toOption) := by
  refine ⟨fun t l => ⟨isRendering_of_ofText, IsRendering.ofText⟩, fun l => ⟨?_, ?_⟩,
    fun f g t l l' => Form.eq_of_read, fun order => Form.findSome?_read⟩
  · rintro ⟨t, hline, ht⟩
    exact ht.isWritable hline
  · rintro ⟨hname, htest⟩
    exact exists_isRendering hname htest

/-- The name is the word that negates. -/
theorem ofText_exact_not :
    ofText "not not == -3".toList =
        .ok ⟨"not".toList, .negation (.compare .eq (.integer (-3)))⟩ ∧
      [Form.negation, .range, .like, .comparison, .state].findSome?
          (fun f => (f.read "not not == -3".toList).toOption) =
        some ⟨"not".toList, .negation (.compare .eq (.integer (-3)))⟩ := by
  have hthreshold : (Literal.integer (-3)).IsWritten ("-3".toList) :=
    .integer .minus (show isDigits ['3'] = true by decide) (by decide)
  have hcomparison : IsComparison "not".toList .eq "-3".toList "not == -3".toList :=
    ⟨by decide, [' '], [' '], by decide, by decide, by decide⟩
  have hrendering : IsRendering "not not == -3".toList
      ⟨"not".toList, .negation (.compare .eq (.integer (-3)))⟩ :=
    .negation (List.cons_ne_nil ' ' []) (by decide) (by decide)
      (.comparison hcomparison hthreshold (by decide))
  have hread := (ofText_exact.1 _ _).2 hrendering
  refine ⟨hread, ?_⟩
  rw [ofText_exact.2.2.2 _ (fun f => by cases f <;> decide), hread]
  rfl

end Leaf

end Overlay
