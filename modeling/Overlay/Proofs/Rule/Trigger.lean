import Overlay.Code.Basic
import Overlay.Proofs.Checks.Rule
import Overlay.Proofs.Condition.Comparison
import Overlay.Proofs.Condition.Grammar
import Overlay.Proofs.Condition.Written
import Overlay.Proofs.Rule.Call
import Overlay.Proofs.Rule.Resolution

/-!
The texts of triggers, and what their counts mean. The arguments of the call are found by
cutting at commas, so it has to be shown that no condition has a comma outside of its
literals and brackets. Of the comparison nothing but the word, a sign and a number is
left, and the code for it says of a count what is written.
-/

namespace Overlay

open Text

/-! Conditions as arguments. -/

theorem Literal.hides_of_ofText {t : Text} {l : Literal} (h : ofText t = .ok l) : Hides ',' t := by
  rcases written_of_ofText h with hnumeric | hliteral
  · exact (IsArgument.of_numeric hnumeric).hides
  · exact (IsArgument.of_isLiteral hliteral).hides

theorem Method.hides_of_call {m : Method} {t : Text} {format : List (List ArgumentType)}
    {args : List Argument} (h : m.call t format = .ok args) : Hides ',' t := by
  obtain ⟨inner, hgroup⟩ := exists_group_of_call h
  obtain ⟨rest, rfl, hrest⟩ := balanced_of_group? hgroup
  exact (Hides.of_literal hrest).name_append m.isName_label (by decide)

namespace Leaf

theorem hides_of_ofText {t : Text} {l : Leaf} (h : ofText t = .ok l) : Hides ',' t := by
  refine ofText_induct (fun t _ => Hides ',' t) ?state ?comparison ?like ?range ?negation h
  case state =>
    intro t l h
    obtain ⟨name, state, hname, hword, rfl, -⟩ := ofEventState?_eq_some_iff.1 h
    refine Hides.name_append (.of_plain ?_ ?_) hname (by decide)
    · rcases hword with rfl | rfl <;> decide
    · rcases hword with rfl | rfl <;> decide
  case comparison =>
    intro t l _ h
    obtain ⟨name, sign, operand, threshold, ⟨hname, b, b', hb, hb', rfl⟩, -, hoperand, -⟩ :=
      ofComparison_eq_ok_iff_isComparison.1 h
    have hsign : (∀ c ∈ sign.label, isPlain c = true) ∧ ',' ∉ sign.label := by
      cases sign <;> decide
    have hrest := (Literal.hides_of_ofText hoperand).blank_append hb' (by decide)
    have hsigned := (hrest.plain_append hsign.1 hsign.2).blank_append hb (by decide)
    simpa using hsigned.name_append hname (by decide)
  case like =>
    intro t l _ _ _ h
    obtain ⟨args, hargs, -⟩ := Except.bind_eq_ok_iff.1 h
    exact Method.hides_of_call hargs
  case range =>
    intro t l _ _ _ _ h
    obtain ⟨args, hargs, -⟩ := Except.bind_eq_ok_iff.1 h
    exact Method.hides_of_call hargs
  case negation =>
    intro t inner l _ _ _ _ h _ ih
    obtain ⟨-, -, -, b, -, hb, rfl⟩ := negated?_eq_some_iff.1 h
    rw [List.append_assoc]
    exact (ih.blank_append hb (by decide)).name_append (by decide) (by decide)

/-- The text of a leaf is an argument. -/
theorem isArgument_of_ofText {t : Text} {l : Leaf} (h : ofText t = .ok l) : IsArgument t := by
  obtain ⟨⟨c, rest, rfl, hc⟩, hends, -⟩ := shape_of_ofText h
  exact ⟨List.cons_ne_nil c rest, startsSolid_cons.2 (isBlank_of_isWord hc), hends,
    hides_of_ofText h⟩

end Leaf

namespace Condition

theorem hides_of_ofText {t : Text} {c : Condition} (h : ofText t = .ok c) : Hides ',' t := by
  refine ofText_induct (fun t _ => Hides ',' t) ?node ?parens ?leaf h
  case node =>
    intro t k parts cs _ hsplit _ hparts
    have hplain : ∀ c ∈ k.sign, isPlain c = true := by cases k <;> decide
    have hcomma : ',' ∉ k.sign := by cases k <;> decide
    obtain ⟨raws, rfl, rfl⟩ := exists_intercalate_of_split k.sign_ne_nil hsplit
    have hraws := isPadded_map_trim raws
    refine Hides.intercalate hplain k.sign_ne_nil hcomma
      (Hides.forall_padded (by decide) hraws ?_)
    intro p hp
    obtain ⟨c, -, -, hp⟩ := forall₂_exists_of_mem_left hparts hp
    exact hp
  case parens =>
    intro t inner c _ _ hparens _ _
    obtain ⟨as, has, hinner⟩ := stripParens_eq_ok_iff.1 hparens
    obtain ⟨group, hgroup, -⟩ := Option.map_eq_some_iff.1 hinner.symm
    obtain ⟨heq, bs, hbs⟩ := (enclosed?_eq_some_iff has).1 hgroup
    have hliteral := Balanced.group (show closer? '(' = some ')' from rfl) hbs .nil
    rw [← heq] at hliteral
    exact (Hides.of_literal hliteral).padded (by decide) (isPadded_trim t)
  case leaf => exact fun _ _ _ hl => Leaf.hides_of_ofText hl

/-- The text of a condition is an argument. -/
theorem isArgument_of_ofText {t : Text} {c : Condition} (h : ofText t = .ok c)
    (htrim : t.trim = t) : IsArgument t := by
  have hreads := reads_of_renders ((ofText_eq_ok_iff_renders htrim).1 h)
  exact ⟨hreads.nonempty, hreads.starts, hreads.ends, hides_of_ofText h⟩

end Condition

/-! The comparison of the count. -/

/-- A numeral is exactly what is read as a number. -/
theorem Literal.isNumeral_iff_ofText {l : Literal} {t : Text} :
    l.IsNumeral t ↔ ofText t = .ok l ∧ l.isNumber = true := by
  simp only [ofText, ArgumentType.convertFirst?, ArgumentType.literal, ArgumentType.convert?,
    List.findSome?_cons, List.findSome?_nil]
  cases hinteger : t.integer? with
  | some n =>
      cases l <;> simp [IsNumeral, hinteger, float?_of_integer? hinteger, Argument.literal?,
        isNumber]
  | none =>
      cases hfloat : t.float? with
      | some x => cases l <;> simp [IsNumeral, hinteger, hfloat, Argument.literal?, isNumber]
      | none =>
          cases hstring : t.unquote? <;> cases l <;>
            simp [IsNumeral, hinteger, hfloat, Argument.literal?, isNumber]

/-- Whether a text is the word `count`, a sign and a number, with any blanks between them. -/
def Leaf.IsCount (sign : Sign) (threshold : Literal) (t : Text) : Prop :=
  ∃ numeral, IsComparison "count".toList sign numeral t ∧ threshold.IsNumeral numeral

namespace Trigger

/-- Nothing but such a text is read as the comparison of a count. -/
theorem readCount_eq_ok_iff_isCount {t : Text} {l : Leaf} : readCount t = .ok l ↔
    ∃ sign threshold, Leaf.IsCount sign threshold t ∧
      l = ⟨"count".toList, .compare sign threshold⟩ := by
  rw [readCount_eq_ok_iff, comparesCount_iff, Leaf.ofComparison_eq_ok_iff_isComparison]
  constructor
  · rintro ⟨⟨name, sign, numeral, threshold, hcomparison, -, hread, rfl⟩, _, _, heq, hnumber⟩
    cases heq
    exact ⟨sign, threshold, ⟨numeral, hcomparison, Literal.isNumeral_iff_ofText.2 ⟨hread, hnumber⟩⟩,
      rfl⟩
  · rintro ⟨sign, threshold, ⟨numeral, hcomparison, hnumeral⟩, rfl⟩
    obtain ⟨hread, hnumber⟩ := Literal.isNumeral_iff_ofText.1 hnumeral
    have hline : '\n' ∉ numeral := fun hmem => absurd (hnumeral.numeric.2 _ hmem) (by decide)
    exact ⟨⟨_, sign, numeral, threshold, hcomparison, hline, hread, rfl⟩, sign, threshold, rfl,
      hnumber⟩

theorem isArgument_of_readCount {t : Text} {l : Leaf} (h : readCount t = .ok l) :
    IsArgument t := by
  obtain ⟨_, _, _, _, hcomparison, hline, hread, -⟩ :=
    Leaf.ofComparison_eq_ok_iff_isComparison.1 (readCount_eq_ok_iff.1 h).1
  exact Leaf.isArgument_of_ofText (Leaf.ofText_of_isComparison hcomparison hline hread)

end Trigger

/-! The text. -/

/-- The character that makes an arrow of a `<`. -/
def Switch.mark : Switch → Char
  | on => '+'
  | off => '-'

theorem Method.trim_of_mem_arguments {m : Method} {t arg : Text} {args : List Text}
    (h : m.arguments t = .ok args) (harg : arg ∈ args) : arg.trim = arg := by
  unfold arguments at h
  split at h
  · cases h
  · split at h
    · cases h
      cases harg
    · exact trim_of_mem_split h harg

namespace Trigger

/-- What stands before the channel: a name and the arrow. The rest is on one line. -/
theorem head?_eq_some_iff {t event rest : Text} {switch : Switch} :
    head? t = some (event, switch, rest) ↔
      event.isName = true ∧ (rest ≠ [] ∧ StartsSolid rest ∧ '\n' ∉ rest) ∧
      ∃ b b' : Text, b.allBlank = true ∧ b'.allBlank = true ∧
        t = event ++ b ++ '<' :: switch.mark :: (b' ++ rest) := by
  simp only [head?, Option.bind_eq_bind, Option.bind_eq_some_iff, Prod.exists,
    nameThen?_eq_some_iff, leadingName?_eq_some_iff]
  constructor
  · rintro ⟨_, after, ⟨arrow, ⟨hname, rfl, -⟩, harrow⟩, h⟩
    obtain ⟨b, hb, hblank⟩ := exists_dropBlank arrow
    rw [harrow] at hblank
    split at h
    case h_3 => cases h
    -- Both directions are read alike, after their own mark.
    all_goals
      obtain ⟨_, hrest, heq⟩ := Option.map_eq_some_iff.1 h
      cases heq
      obtain ⟨hne, hstart, hline, b', hb', rfl⟩ := restOfLine?_eq_some_iff.1 hrest
      exact ⟨hname, ⟨hne, hstart, hline⟩, b, b', hb, hb', by simp [hblank, Switch.mark]⟩
  · rintro ⟨hname, ⟨hne, hstart, hline⟩, b, b', hb, hb', rfl⟩
    have hrest : restOfLine? (b' ++ rest) = some rest :=
      restOfLine?_eq_some_iff.2 ⟨hne, hstart, hline, b', hb', rfl⟩
    have hends : EndsWord (b ++ '<' :: switch.mark :: (b' ++ rest)) :=
      Leaf.endsWord_blanks_append hb (endsWord_cons.2 (by decide))
    have hdrop : dropBlank (b ++ '<' :: switch.mark :: (b' ++ rest)) =
        '<' :: switch.mark :: (b' ++ rest) := by
      rw [dropBlank_append hb, dropBlank_of_startsSolid (startsSolid_cons.2 (by decide))]
    refine ⟨event, switch.mark :: (b' ++ rest), ⟨_, ⟨hname, by simp, hends⟩, hdrop⟩, ?_⟩
    cases switch <;> simp [Switch.mark, hrest]

/-- The channel and the call are found at the first point. -/
theorem split_channel {channel call c c' d : Text} (hchannel : channel.isName = true)
    (hcall : IsArgument call) (hc : c.allBlank = true) (hc' : c'.allBlank = true)
    (hd : d.allBlank = true) :
    (channel ++ c ++ '.' :: (c' ++ call ++ d)).split ['.'] (some 2) = .ok [channel, call] := by
  have hname := IsArgument.of_isName hchannel
  have hhides : Hides '.' (channel ++ c) :=
    (Hides.of_isName hchannel (by decide)).padded (by decide) ⟨[], c, allBlank_nil, hc, by simp⟩
  obtain ⟨as, has, -⟩ := hcall.hides.padded (by decide) ⟨c', d, hc', hd, rfl⟩
  have hparts := @split_two '.' [] (by decide) _ _ hhides _ has
  have hleft := trim_eq allBlank_nil hc hname.starts hname.ends
  rw [List.nil_append] at hleft
  rw [hleft, trim_eq hc' hd hcall.starts hcall.ends] at hparts
  simpa using hparts

theorem exists_of_split {rest channel call : Text} (hchannel : channel ≠ [])
    (hstart : StartsSolid rest) (h : rest.split ['.'] (some 2) = .ok [channel, call]) :
    ∃ c c' d : Text, c.allBlank = true ∧ c'.allBlank = true ∧ d.allBlank = true ∧
      rest = channel ++ c ++ '.' :: (c' ++ call ++ d) := by
  obtain ⟨raws, rfl, hraws⟩ := exists_intercalate_of_split (List.cons_ne_nil '.' []) h
  match raws, hraws with
  | [left, right], hraws =>
    cases hraws
    obtain ⟨b, c, hb, hc, hleft, hsolid, -⟩ := exists_trim left
    obtain ⟨c', d, hc', hd, hright, -, -⟩ := exists_trim right
    -- Blanks before the channel would be blanks at the beginning.
    have hfront : b = [] := by
      cases b with
      | nil => rfl
      | cons e b =>
          rw [hleft] at hstart
          have he := startsSolid_cons.1 hstart
          rw [(allBlank_cons.1 hb).1] at he
          cases he
    subst hfront
    refine ⟨c, c', d, hc, hc', hd, ?_⟩
    rw [← hright]
    conv => lhs; rw [hleft]
    simp [List.intercalate_cons_cons]

/-- The arguments as they are converted. -/
theorem exists_call_iff {call count condition : Text} {interval : Literal} :
    (∃ args, Method.trigger.call call format = .ok args ∧
      Argument.nth Argument.literal? args 0 = .ok interval ∧
      Argument.nth Argument.untyped? args 1 = .ok count ∧
      Argument.nth Argument.untyped? args 2 = .ok condition) ↔
    ∃ t, Method.trigger.arguments call = .ok [t, count, condition] ∧ interval.IsNumeral t := by
  simp only [Method.call_eq_ok_iff, Argument.nth_eq_ok_iff, Literal.isNumeral_iff]
  constructor
  · rintro ⟨args, ⟨ts, hts, hlen, hargs⟩, ⟨a, ha, hinterval⟩, ⟨a', ha', hcount⟩, a'', ha'',
      hcondition⟩
    match ts, hlen with
    | [t, t', t''], _ =>
      obtain ⟨x, _, hx, htail, rfl⟩ := List.forall₂_cons_left_iff.1 hargs
      obtain ⟨y, _, hy, hlast, rfl⟩ := List.forall₂_cons_left_iff.1 htail
      obtain ⟨z, _, hz, hnil, rfl⟩ := List.forall₂_cons_left_iff.1 hlast
      cases hnil
      cases ha
      cases ha'
      cases ha''
      -- The last two positions take any text as it is.
      rw [Method.Converts, ArgumentType.convertFirst?_singleton] at hy hz
      cases hy
      cases hz
      cases hcount
      cases hcondition
      exact ⟨t, hts, a, hx, hinterval⟩
  · rintro ⟨t, hts, a, ha, hinterval⟩
    refine ⟨[a, .untyped count, .untyped condition],
      ⟨_, hts, rfl, .cons ha (.cons ?_ (.cons ?_ .nil))⟩, ⟨a, rfl, hinterval⟩, ⟨_, rfl, rfl⟩,
      ⟨_, rfl, rfl⟩⟩
    · rw [Method.Converts, ArgumentType.convertFirst?_singleton]
      rfl
    · rw [Method.Converts, ArgumentType.convertFirst?_singleton]
      rfl

/-- Whether a text is the call of a trigger, of its interval, a comparison of the count and a
condition. -/
def IsCall (t : Trigger) (call : Text) : Prop :=
  ∃ interval count condition sign threshold,
    Method.trigger.IsWritten [interval, count, condition] call ∧ t.interval.IsNumeral interval ∧
    Leaf.IsCount sign threshold count ∧
    t.countCondition = ⟨"count".toList, .compare sign threshold⟩ ∧
    condition.trim = condition ∧ Condition.ofText condition = .ok t.condition

/-- Whether a text is written as a trigger: the event, the arrow, the channel, a point and
the call, with any blanks between them. All that follows the arrow is on one line. -/
def IsWritten (t : Trigger) (text : Text) : Prop :=
  ∃ rest call b b' c c' d : Text, t.IsCall call ∧
    b.allBlank = true ∧ b'.allBlank = true ∧ c.allBlank = true ∧ c'.allBlank = true ∧
    d.allBlank = true ∧ '\n' ∉ rest ∧ text = t.event ++ b ++ '<' :: t.switch.mark :: (b' ++ rest) ∧
    rest = t.channel ++ c ++ '.' :: (c' ++ call ++ d)

theorem forall_isArgument {t : Trigger} {interval count condition : Text}
    (hinterval : t.interval.IsNumeral interval) (hcount : readCount count = .ok t.countCondition)
    (hcondition : Condition.ofText condition = .ok t.condition)
    (htrim : condition.trim = condition) :
    ∀ arg ∈ [interval, count, condition], IsArgument arg := by
  simp only [List.forall_mem_cons]
  exact ⟨.of_numeric hinterval.numeric, isArgument_of_readCount hcount,
    Condition.isArgument_of_ofText hcondition htrim, nofun⟩

theorem IsCall.isArgument {t : Trigger} {call : Text} (h : t.IsCall call) : IsArgument call := by
  obtain ⟨interval, count, condition, sign, threshold, hwritten, hinterval, hisCount, hcount,
    htrim, hcondition⟩ := h
  have hread := readCount_eq_ok_iff_isCount.2 ⟨sign, threshold, hisCount, hcount⟩
  exact hwritten.isArgument (forall_isArgument hinterval hread hcondition htrim)

theorem isCall_iff {t : Trigger} {call : Text} : t.IsCall call ↔ ∃ args count condition,
    Method.trigger.call call format = .ok args ∧
    Argument.nth Argument.literal? args 0 = .ok t.interval ∧
    Argument.nth Argument.untyped? args 1 = .ok count ∧ readCount count = .ok t.countCondition ∧
    Argument.nth Argument.untyped? args 2 = .ok condition ∧
    Condition.ofText condition = .ok t.condition := by
  constructor
  · rintro ⟨interval, count, condition, sign, threshold, hwritten, hinterval, hisCount, hcount,
      htrim, hcondition⟩
    have hread := readCount_eq_ok_iff_isCount.2 ⟨sign, threshold, hisCount, hcount⟩
    have hargs := forall_isArgument hinterval hread hcondition htrim
    obtain ⟨args, hcall, h0, h1, h2⟩ := exists_call_iff.2
      ⟨interval, hwritten.arguments (List.cons_ne_nil _ _) hargs, hinterval⟩
    exact ⟨args, count, condition, hcall, h0, h1, hread, h2, hcondition⟩
  · rintro ⟨args, count, condition, hcall, h0, h1, hread, h2, hcondition⟩
    obtain ⟨interval, hts, hinterval⟩ := exists_call_iff.1 ⟨args, hcall, h0, h1, h2⟩
    obtain ⟨sign, threshold, hisCount, hcount⟩ := readCount_eq_ok_iff_isCount.1 hread
    exact ⟨interval, count, condition, sign, threshold,
      Method.isWritten_of_arguments hts (List.cons_ne_nil _ _), hinterval, hisCount, hcount,
      Method.trim_of_mem_arguments hts (by simp), hcondition⟩

/-- A trigger is read exactly from the texts that are written as one. -/
theorem ofUnit_iff_isWritten {s : StateBlock} {u : SourceUnit} {t : Trigger} :
    ofUnit s u = .ok t ↔ t.unit = u ∧ t.Resolves s ∧ IsProperName t.channel ∧
      t.interval.IsPositive ∧ t.IsWritten u.text := by
  rw [ofUnit_eq_ok_iff]
  constructor
  · rintro ⟨rest, call, args, count, condition, hhead, hevent, hsplit, hchannel, hargs, hinterval,
      hpositive, hcount, hread, htext, hcondition, hdeclared, hunit⟩
    obtain ⟨-, ⟨-, hstart, hline⟩, b, b', hb, hb', heq⟩ := head?_eq_some_iff.1 hhead
    have hproper := isProperName_of_checkName hchannel
    obtain ⟨c, c', d, hc, hc', hd, hrest⟩ :=
      exists_of_split (isName_iff.1 hproper.1).1 hstart hsplit
    have hcall := isCall_iff.2 ⟨args, count, condition, hargs, hinterval, hcount, hread, htext,
      hcondition⟩
    exact ⟨hunit, ⟨StateBlock.declaresChannel_of_isNone_ne hdeclared,
      isProperName_of_checkName hevent⟩, hproper, checkPositive_eq_ok_iff.1 hpositive,
      rest, call, b, b', c, c', d, hcall, hb, hb', hc, hc', hd, hline, heq, hrest⟩
  · rintro ⟨hunit, ⟨hdeclared, hevent⟩, hproper, hpositive, rest, call, b, b', c, c', d, hcall, hb,
      hb', hc, hc', hd, hline, heq, hrest⟩
    have hisArgument := hcall.isArgument
    obtain ⟨args, count, condition, hargs, hinterval, hcount, hread, htext, hcondition⟩ :=
      isCall_iff.1 hcall
    have hname := IsArgument.of_isName hproper.1
    have hstart : rest ≠ [] ∧ StartsSolid rest ∧ '\n' ∉ rest := by
      refine ⟨by simp [hrest], ?_, hline⟩
      rw [hrest, List.append_assoc]
      exact hname.starts.append hname.nonempty
    refine ⟨rest, call, args, count, condition,
      head?_eq_some_iff.2 ⟨hevent.1, hstart, b, b', hb, hb', heq⟩, checkName_eq_ok_iff.2 hevent,
      hrest ▸ split_channel hproper.1 hisArgument hc hc' hd, checkName_eq_ok_iff.2 hproper, hargs,
      hinterval, checkPositive_eq_ok_iff.2 hpositive, hcount, hread, htext, hcondition, ?_, hunit⟩
    simpa [StateBlock.channel?, StateBlock.DeclaresChannel] using hdeclared

end Trigger

/-! The code. -/

/-- A sign accepts the order of two whole numbers when it holds of them. -/
theorem Sign.accepts_compare_whole (s : Sign) (a b : Int) :
    s.accepts (Ord.compare a b) = decide (s.Relates a b) := by
  rw [← compare_mul_unitsPerOne, accepts_compare]
  simp only [ofUnits_mul_unitsPerOne]

namespace Trigger

/-- A record with a count. -/
def countRecord (n : Int64) : Json := .object [("count".toList, .ofInt64 n)]

/-- The code of a comparison of the count with a whole number, on a record with a count. -/
theorem check_toJson_count (sign : Sign) (k n : Int64) :
    Condition.check (Leaf.toJson ⟨"count".toList, .compare sign (.integer k)⟩) (countRecord n) =
      .ok (decide (sign.Relates n.toInt k.toInt)) := by
  have hname : Text.isName "count".toList = true := by decide
  have hread := Condition.ofJson_toJson
    (.leaf ⟨"count".toList, .compare sign (.integer k)⟩) hname rfl
  rw [Condition.toJson] at hread
  rw [Condition.check, hread, Except.map_ok, Condition.holds, Leaf.holds, countRecord, Json.field?,
    List.lookup_cons_self, Option.bind_some, Test.check, Json.ofInt64, Json.compare?_integer,
    Option.map_some, Option.getD_some, Sign.accepts_compare_whole]

/-- A trigger is read exactly from the texts that are written as one, so its second argument
is the word `count`, a sign and a number and nothing else; and if the number is a whole one,
the code holds on a count exactly when the sign holds of the count and the number. -/
theorem isWritten_iff_and_check_count {s : StateBlock} {u : SourceUnit} {t : Trigger} :
    (ofUnit s u = .ok t ↔ t.unit = u ∧ t.Resolves s ∧ IsProperName t.channel ∧
        t.interval.IsPositive ∧ t.IsWritten u.text) ∧
      (ofUnit s u = .ok t → ∀ {sign : Sign} {k : Int64},
        t.countCondition.test = .compare sign (.integer k) → ∀ n : Int64,
          Condition.check t.code.countCondition (countRecord n) =
            .ok (decide (sign.Relates n.toInt k.toInt))) := by
  refine ⟨ofUnit_iff_isWritten, fun h sign k htest n => ?_⟩
  obtain ⟨-, -, -, -, rest, call, _, _, _, _, _, hcall, -⟩ := ofUnit_iff_isWritten.1 h
  obtain ⟨_, _, _, sign', threshold, -, -, -, hcount, -, -⟩ := hcall
  rw [hcount] at htest
  cases htest
  rw [code, hcount, check_toJson_count]

def alarmText : Text :=
  "hot<+ here .trigger( 60, count>= -3 ,not temp < 30 && (a.on || b == \"x, y\"))".toList

def alarmUnit : SourceUnit := ⟨7, [alarmText], alarmText⟩

/-- A state block with the channel that is watched. -/
def watchedChannel : StateBlock where
  services := []
  scratches := []
  channels := [⟨.channel, "here".toList, "there".toList, .bare 0⟩]
  unit := .bare 0

def alarm : Trigger where
  event := "hot".toList
  switch := .on
  channel := "here".toList
  interval := .integer 60
  countCondition := ⟨"count".toList, .compare .ge (.integer (-3))⟩
  condition := .all [.leaf ⟨"temp".toList, .negation (.compare .lt (.integer 30))⟩,
    .any [.leaf ⟨['a'], .compare .eq (.string "on".toList)⟩,
      .leaf ⟨['b'], .compare .eq (.string "x, y".toList)⟩]]
  unit := alarmUnit

theorem alarm_isWritten_and_check_count : ofUnit watchedChannel alarmUnit = .ok alarm ∧
    alarm.IsWritten alarmUnit.text ∧
    ∀ n : Int64, Condition.check alarm.code.countCondition (countRecord n) =
      .ok (decide (Sign.ge.Relates n.toInt (-3 : Int64).toInt)) := by
  have hread : ofUnit watchedChannel alarmUnit = .ok alarm := by decide +kernel
  have h := @isWritten_iff_and_check_count watchedChannel alarmUnit alarm
  exact ⟨hread, (h.1.1 hread).2.2.2.2, h.2 hread rfl⟩

end Trigger

end Overlay
