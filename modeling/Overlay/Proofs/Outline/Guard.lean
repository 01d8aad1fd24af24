import Overlay.Proofs.Break.Blocks
import Overlay.Proofs.Guard
import Overlay.Proofs.Outline.Division

/-!
Lines with guards on the states of events. Four forms of lines are tried on each of them,
and the one for calls of methods comes close, since a state stands behind a point. But
behind the state comes no bracket, only blanks, a sign or the end of the guard, so the
first form that fits is that of an event block.
-/

namespace Overlay

open Text

/-! What a condition begins with. -/

namespace Condition

/-- What may stand behind a leaf: nothing, or a sign with blanks before it. -/
def Follows (rest : Text) : Prop :=
  rest = [] ∨ ∃ (b : Text) (k : Connective) (more : Text), b.allBlank = true ∧
    rest = b ++ k.sign ++ more

theorem Follows.append_sign {rest b : Text} (h : Follows rest) (hb : b.allBlank = true)
    (k : Connective) (more : Text) : Follows (rest ++ b ++ k.sign ++ more) := by
  rcases h with rfl | ⟨b', k', more', hb', rfl⟩
  · exact .inr ⟨b, k, more, hb, by simp⟩
  · exact .inr ⟨b', k', more' ++ b ++ k.sign ++ more, hb', by simp⟩

/-- Whether a text begins with a bracket or with a leaf of some form. -/
def Starts (P : Text → Leaf → Prop) (t : Text) : Prop :=
  (∃ rest, t = '(' :: rest) ∨ ∃ u l rest, P u l ∧ Follows rest ∧ t = u ++ rest

section

variable {P : Text → Leaf → Prop}

theorem Starts.append_sign {s b : Text} (h : Starts P s) (hb : b.allBlank = true)
    (k : Connective) (more : Text) : Starts P (s ++ b ++ k.sign ++ more) := by
  rcases h with ⟨rest, rfl⟩ | ⟨u, l, rest, hu, hrest, rfl⟩
  · exact .inl ⟨rest ++ b ++ k.sign ++ more, by simp⟩
  · exact .inr ⟨u, l, rest ++ b ++ k.sign ++ more, hu, hrest.append_sign hb k more, by simp⟩

mutual

theorem Written.starts {place : Place} {c : Condition} {t : Text} :
    Written P place c t → Starts P t
  | .leaf h => .inr ⟨t, _, [], h, .inl rfl, (List.append_nil t).symm⟩
  | .node _ _ h => h.starts
  | @Written.parens _ _ _ b t b' _ _ _ => .inl ⟨b ++ t ++ b' ++ [')'], by simp⟩

theorem WrittenAll.starts {k : Connective} {cs : List Condition} {t : Text} :
    WrittenAll P k cs t → Starts P t
  | .last h => h.starts
  | @WrittenAll.cons _ _ _ _ s b b' t hs hb _ _ => by
      have h := hs.starts.append_sign hb k (b' ++ t)
      rwa [← List.append_assoc] at h

end

mutual

/-- A character that is in no leaf is in no condition, unless it belongs to its signs. -/
theorem Written.not_mem {place : Place} {c : Condition} {t : Text} {d : Char}
    (hd : isBlank d = false ∧ d ∉ ['(', ')', '|', '&']) (hP : ∀ {u l}, P u l → d ∉ u) :
    Written P place c t → d ∉ t
  | .leaf h => hP h
  | .node _ _ h => h.not_mem hd hP
  | .parens hb hb' h => by
      have hnot := h.not_mem hd hP
      obtain ⟨hblank, hdne⟩ := hd
      simp only [List.mem_cons, List.not_mem_nil, or_false, not_or] at hdne
      simp [hnot, not_mem_of_allBlank hb hblank, not_mem_of_allBlank hb' hblank, hdne]

theorem WrittenAll.not_mem {k : Connective} {cs : List Condition} {t : Text} {d : Char}
    (hd : isBlank d = false ∧ d ∉ ['(', ')', '|', '&']) (hP : ∀ {u l}, P u l → d ∉ u) :
    WrittenAll P k cs t → d ∉ t
  | .last h => h.not_mem hd hP
  | .cons hs hb hb' ht => by
      have hleft := hs.not_mem hd hP
      have hright := ht.not_mem hd hP
      obtain ⟨hblank, hdne⟩ := hd
      simp only [List.mem_cons, List.not_mem_nil, or_false, not_or] at hdne
      have hsign : d ∉ k.sign := by cases k <;> simp [Connective.sign, orSign, andSign, hdne]
      simp [hleft, hright, not_mem_of_allBlank hb hblank, not_mem_of_allBlank hb' hblank, hsign]

end

end

end Condition

/-! Which constructs a line begins. -/

theorem Text.isMethodCall_iff {t : Text} : isMethodCall t = true ↔
    ∃ name after rest name' after' rest' : Text, t.leadingName? = some (name, after) ∧
      after.dropBlank = '.' :: rest ∧ leadingName? (dropBlank rest) = some (name', after') ∧
      after'.dropBlank = '(' :: rest' := by
  simp only [isMethodCall, Option.isSome_iff_exists, Option.bind_eq_some_iff, Prod.exists,
    nameThen?_eq_some_iff, List.cons_append, List.nil_append]
  constructor
  · rintro ⟨name', rest', name, rest, ⟨after, hname, hpoint⟩, after', hname', hbracket⟩
    exact ⟨name, after, rest, name', after', rest', hname, hpoint, hname', hbracket⟩
  · rintro ⟨name, after, rest, name', after', rest', hname, hpoint, hname', hbracket⟩
    exact ⟨name', rest', name, rest, ⟨after, hname, hpoint⟩, after', hname', hbracket⟩

namespace Construct

/-- A line begins no rule if behind its name there is neither an arrow nor a call. -/
theorem opens_rule_eq_false {t : Text}
    (h : ∀ {name after}, t.leadingName? = some (name, after) → after.dropBlank.head? ≠ some '<' ∧
      ∀ {rest name' after'}, after.dropBlank = '.' :: rest →
        leadingName? (dropBlank rest) = some (name', after') →
        after'.dropBlank.head? ≠ some '(') : ∀ k ∈ rules, k.opens t = false := by
  have hless (mark : Text) : nameThen? ('<' :: mark) t = none := by
    cases hname : nameThen? ('<' :: mark) t with
    | none => rfl
    | some found =>
        obtain ⟨after, hleading, hafter⟩ := nameThen?_eq_some_iff.1 hname
        exact absurd (by rw [hafter]; rfl) (h hleading).1
  have hcall : ¬ isMethodCall t = true := by
    intro hcall
    obtain ⟨name, after, rest, name', after', rest', hname, hpoint, hname', hbracket⟩ :=
      isMethodCall_iff.1 hcall
    exact (h hname).2 hpoint hname' (by rw [hbracket]; rfl)
  simp [rules, opens, hless, hcall]

theorem opens_rule_of_bracket (rest : Text) : ∀ k ∈ rules, k.opens ('(' :: rest) = false := by
  have hnone : leadingName? ('(' :: rest) = none := by
    simp [leadingName?, spanWord, show isWord '(' = false by decide]
  refine opens_rule_eq_false fun h => ?_
  rw [hnone] at h
  cases h

/-- Neither does it if behind its name there are blanks and another name. -/
theorem opens_rule_of_names {name b rest : Text} {c : Char} (hname : name.isName = true)
    (hne : b ≠ []) (hb : b.allBlank = true) (hc : isWord c = true) :
    ∀ k ∈ rules, k.opens (name ++ b ++ c :: rest) = false := by
  obtain ⟨d, b, rfl⟩ := List.exists_cons_of_ne_nil hne
  have hleading : leadingName? (name ++ d :: b ++ c :: rest) = some (name, d :: b ++ c :: rest) :=
    leadingName?_eq_some_iff.2 ⟨hname, by simp,
      endsWord_cons.2 (isWord_eq_false_of_isBlank (allBlank_cons.1 hb).1)⟩
  have hdrop : dropBlank (d :: b ++ c :: rest) = c :: rest := by
    rw [dropBlank_append hb, dropBlank_of_startsSolid (startsSolid_cons.2 (isBlank_of_isWord hc))]
  refine opens_rule_eq_false fun h => ?_
  rw [hleading] at h
  cases h
  rw [hdrop]
  refine ⟨by simpa using ne_of_isWord hc (by decide), fun hpoint => ?_⟩
  exact absurd (List.cons.inj hpoint).1 (ne_of_isWord hc (by decide))

end Construct

namespace Leaf

theorem exists_cons_of_isPointed {u : Text} {l : Leaf} (h : IsPointed u l) :
    ∃ c rest, u = c :: rest ∧ isWord c = true := by
  obtain ⟨name, word, hname, -, rfl, -⟩ := h
  exact starts_append (starts_of_isName hname).1

theorem UnderNots.exists_cons {P : Text → Leaf → Prop} {u : Text} {l : Leaf} (h : UnderNots P u l)
    (hP : ∀ {u l}, P u l → ∃ c rest, u = c :: rest ∧ isWord c = true) :
    ∃ c rest, u = c :: rest ∧ isWord c = true := by
  cases h with
  | self h => exact hP h
  | @negation b t l _ _ _ => exact ⟨'n', 'o' :: 't' :: (b ++ t), rfl, by decide⟩

/-- Neither does the state of an event, if no bracket stands behind it. -/
theorem opens_rule_of_isPointed {u after : Text} {l : Leaf} (h : IsPointed u l)
    (hends : EndsWord after) (hafter : after.dropBlank.head? ≠ some '(') :
    ∀ k ∈ Construct.rules, k.opens (u ++ after) = false := by
  obtain ⟨name, word, hname, hword, rfl, -⟩ := h
  have hleading : leadingName? (name ++ '.' :: word ++ after) =
      some (name, '.' :: (word ++ after)) :=
    leadingName?_eq_some_iff.2 ⟨hname, by simp, endsWord_cons.2 (by decide)⟩
  have hpoint : dropBlank ('.' :: (word ++ after)) = '.' :: (word ++ after) :=
    dropBlank_of_startsSolid (startsSolid_cons.2 (by decide))
  -- The word for the state would be the name of the call, so its bracket comes behind that.
  have hstate : leadingName? (dropBlank (word ++ after)) = some (word, after) := by
    have harg := IsArgument.of_isName hword.isName
    rw [dropBlank_of_startsSolid (harg.starts.append harg.nonempty)]
    exact leadingName?_eq_some_iff.2 ⟨hword.isName, rfl, hends⟩
  refine Construct.opens_rule_eq_false fun h => ?_
  rw [hleading] at h
  cases h
  rw [hpoint, List.head?_cons]
  refine ⟨by decide, fun hrest hcall => ?_⟩
  cases hrest
  rw [hstate] at hcall
  cases hcall
  exact hafter

theorem opens_rule_of_underNots {u after : Text} {l : Leaf} (h : UnderNots IsPointed u l)
    (hends : EndsWord after) (hafter : after.dropBlank.head? ≠ some '(') :
    ∀ k ∈ Construct.rules, k.opens (u ++ after) = false := by
  cases h with
  | self h => exact opens_rule_of_isPointed h hends hafter
  | @negation b t l hne hb h =>
      obtain ⟨c, rest, rfl, hc⟩ := h.exists_cons exists_cons_of_isPointed
      rw [List.append_assoc _ (c :: rest), List.cons_append]
      exact Construct.opens_rule_of_names (by decide) hne hb hc

end Leaf

/-- What stands behind a leaf and before the end of a header line begins with no bracket. -/
theorem Condition.Follows.head?_ne {rest b : Text} (h : Follows rest) (hne : b ≠ [])
    (hb : b.allBlank = true) : EndsWord (rest ++ (b ++ ['d', 'o'])) ∧
      (dropBlank (rest ++ (b ++ ['d', 'o']))).head? ≠ some '(' := by
  rcases h with rfl | ⟨b', k, more, hb', rfl⟩
  · refine ⟨?_, ?_⟩
    · obtain ⟨c, b, rfl⟩ := List.exists_cons_of_ne_nil hne
      exact endsWord_cons.2 (isWord_eq_false_of_isBlank (allBlank_cons.1 hb).1)
    · rw [List.nil_append, dropBlank_append hb]
      decide
  · have hsign : k.sign = [k.mark, k.mark] := by cases k <;> rfl
    obtain ⟨hword, hblank, hbracket⟩ :
        isWord k.mark = false ∧ isBlank k.mark = false ∧ k.mark ≠ '(' := by
      cases k <;> decide
    rw [List.append_assoc, List.append_assoc, hsign]
    refine ⟨Leaf.endsWord_blanks_append hb' (endsWord_cons.2 hword), ?_⟩
    rw [dropBlank_append hb', List.cons_append,
      dropBlank_of_startsSolid (startsSolid_cons.2 hblank), List.head?_cons]
    simpa using hbracket

/-- The header line of a condition on states begins no rule. -/
theorem Condition.Written.opens_rule {place : Place} {c : Condition} {guard b : Text}
    (h : Written (Leaf.UnderNots Leaf.IsPointed) place c guard) (hne : b ≠ [])
    (hb : b.allBlank = true) :
    ∀ k ∈ Construct.rules, k.opens (guard ++ b ++ ['d', 'o']) = false := by
  rw [List.append_assoc]
  rcases h.starts with ⟨rest, rfl⟩ | ⟨u, l, rest, hu, hrest, rfl⟩
  · exact Construct.opens_rule_of_bracket _
  · obtain ⟨hends, hafter⟩ := hrest.head?_ne hne hb
    rw [List.append_assoc]
    exact Leaf.opens_rule_of_underNots hu hends hafter

/-! The line. -/

/-- Without quotes and number signs nothing is taken away but blanks. -/
theorem Text.stripComment_of_not_mem {t : Text} (hquote : '"' ∉ t) (hsign : '#' ∉ t) :
    t.stripComment = .ok t.trim := by
  have hquoted : Quoted t (t.map .char) := by
    clear hsign
    induction t with
    | nil => exact .nil
    | cons c t ih =>
        obtain ⟨hc, ht⟩ := not_or.1 (mt List.mem_cons.2 hquote)
        refine .char (Ne.symm hc) (fun _ hhead => ?_) (ih ht)
        exact ht (List.mem_of_mem_head? hhead)
  have hbefore : t.beforeComment = t := by
    unfold beforeComment
    clear hquoted
    induction t with
    | nil => rfl
    | cons c t ih =>
        obtain ⟨hc, ht⟩ := not_or.1 (mt List.mem_cons.2 hquote)
        obtain ⟨hc', ht'⟩ := not_or.1 (mt List.mem_cons.2 hsign)
        simp [beforeCommentFrom, Ne.symm hc, Ne.symm hc', ih ht ht']
  exact stripComment_eq_ok_iff.2 ⟨_, by rwa [hbefore], by rw [hbefore]⟩

theorem Leaf.UnderNots.not_mem {P : Text → Leaf → Prop} {u : Text} {l : Leaf} {d : Char}
    (h : UnderNots P u l) (hword : isWord d = false) (hblank : isBlank d = false)
    (hP : ∀ {u l}, P u l → d ∉ u) : d ∉ u := by
  induction h with
  | self h => exact hP h
  | negation _ hb _ ih =>
      have hnot : d ∉ "not".toList := not_mem_of_isName (by decide) hword
      simp only [List.mem_append, not_or]
      exact ⟨⟨hnot, not_mem_of_allBlank hb hblank⟩, ih⟩

theorem Leaf.not_mem_of_isPointed {u : Text} {l : Leaf} {d : Char} (h : IsPointed u l)
    (hd : isWord d = false) (hpoint : d ≠ '.') : d ∉ u := by
  obtain ⟨name, word, hname, hword, rfl, -⟩ := h
  simp [not_mem_of_isName hname hd, not_mem_of_isName hword.isName hd, hpoint]

section

variable {c : Condition} {guard b line : Text}

theorem Condition.Written.isRead {place : Place}
    (h : Written (Leaf.UnderNots Leaf.IsPointed) place c guard) (hfeed : '\n' ∉ guard) :
    Written IsRead place c guard :=
  h.mono fun hpart _ hleaf =>
    hleaf.ofText Leaf.ofText_of_isPointed fun hmem => hfeed (hpart.subset hmem)

theorem Condition.Written.guards (h : Written (Leaf.UnderNots Leaf.IsPointed) .whole c guard)
    (hfeed : '\n' ∉ guard) (hne : b ≠ []) (hb : b.allBlank = true)
    (hline : IsPadded (guard ++ b ++ ['d', 'o']) line) :
    line.stripComment = .ok (guard ++ b ++ ['d', 'o']) ∧ Text.Guards guard line := by
  have hreads := reads_of_renders (h.isRead hfeed)
  obtain ⟨b', b'', hb', hb'', rfl⟩ := hline
  have hnot {d : Char} (hd : isWord d = false ∧ isBlank d = false ∧ d ∉ ['(', ')', '|', '&'] ∧
      d ≠ '.' ∧ d ∉ ['d', 'o']) : d ∉ b' ++ (guard ++ b ++ ['d', 'o']) ++ b'' := by
    obtain ⟨hword, hblank, hsigns, hpoint, hdo⟩ := hd
    have hguard := h.not_mem ⟨hblank, hsigns⟩ fun hleaf =>
      hleaf.not_mem hword hblank fun hleaf => Leaf.not_mem_of_isPointed hleaf hword hpoint
    simp only [List.mem_append, not_or]
    exact ⟨⟨not_mem_of_allBlank hb' hblank, ⟨hguard, not_mem_of_allBlank hb hblank⟩, hdo⟩,
      not_mem_of_allBlank hb'' hblank⟩
  have hstrip := stripComment_of_not_mem (hnot (d := '"') (by decide)) (hnot (d := '#') (by decide))
  have hstart : StartsSolid (guard ++ b ++ ['d', 'o']) := by
    rw [List.append_assoc]
    exact hreads.starts.append hreads.nonempty
  have hend : EndsSolid (guard ++ b ++ ['d', 'o']) :=
    EndsSolid.append (endsSolid_of_all (by decide)) (List.cons_ne_nil _ _)
  rw [trim_eq hb' hb'' hstart hend] at hstrip
  exact ⟨hstrip, hreads.nonempty, trim_eq_self_iff.2 ⟨hreads.starts, hreads.ends⟩, hfeed, b, hne,
    hb, hstrip⟩

/-- A line that begins no rule but ends in a `do` is that of an event block. -/
theorem Construct.filter_opens_rulesAndEvents {t : Text}
    (hrules : ∀ k ∈ rules, k.opens t = false) (hheader : isHeader t = true) :
    rulesAndEvents.filter (·.opens t) = [.eventBlock] := by
  have hnone : rules.filter (·.opens t) = [] :=
    List.filter_eq_nil_iff.2 fun k hk => by simp [hrules k hk]
  have hevent : [eventBlock].filter (·.opens t) = [.eventBlock] :=
    List.filter_eq_self.2 (List.forall_mem_singleton.2 hheader)
  rw [show rulesAndEvents = rules ++ [.eventBlock] from rfl, List.filter_append, hnone, hevent]
  rfl

/-- With its guard known, an event block is read exactly if its rules are. -/
theorem EventBlock.ofItem_eq_ok_iff_of_guards {s : StateBlock} {i : Item} {e : EventBlock}
    (hc : i.construct = .eventBlock) (hhead : i.unit.lines.head? = some line)
    (hguards : Text.Guards guard line) (hread : Condition.ofText guard = .ok c) :
    ofItem s i = .ok e ↔ e.condition = c ∧ HasRules s i e.rules ∧ e.unit = i.unit := by
  obtain ⟨rest, hlines⟩ := List.head?_eq_some_iff.1 hhead
  rw [ofItem_eq_ok_iff hc]
  refine and_congr_left fun _ => ?_
  constructor
  · rintro ⟨line', rest', guard', hlines', hguards', hread'⟩
    rw [hlines] at hlines'
    cases hlines'
    rw [hguards'.unique hguards, hread] at hread'
    exact (Except.ok.inj hread').symm
  · rintro rfl
    exact ⟨line, rest, guard, hlines, hguards, hread⟩

/-- A condition on the states of events, with blanks and a `do` behind it, is a header line
to all that look at the line: of the forms of lines in the `bloom` block it has that of an
event block only, and from there on an event block is read; inside a block it opens another
one; and the event blocks that begin with it are read with this condition, whatever their
rules are. -/
theorem EventBlock.guard_line_is_header
    (h : Condition.Written (Leaf.UnderNots Leaf.IsPointed) .whole c guard) (hfeed : '\n' ∉ guard)
    (hne : b ≠ []) (hb : b.allBlank = true) (hline : IsPadded (guard ++ b ++ ['d', 'o']) line) :
    ∃ t, line.stripComment = .ok t ∧
      Construct.rulesAndEvents.filter (·.opens t) = [.eventBlock] ∧
      (∀ number rest, Item.listFrom Construct.rulesAndEvents none ((number, line) :: rest) =
        Item.listFrom Construct.rulesAndEvents (some (.start .eventBlock number line t)) rest) ∧
      (∀ o : Item.Open, o.construct.isBlock = true → (o.feed line t).depth = o.depth + 1) ∧
      ∀ u items, Item.list u Construct.rulesAndEvents = .ok items →
        ∀ i ∈ items, i.unit.lines.head? = some line → i.construct = .eventBlock ∧
          ∀ s e, EventBlock.ofItem s i = .ok e ↔
            e.condition = c ∧ EventBlock.HasRules s i e.rules ∧ e.unit = i.unit := by
  obtain ⟨hstrip, hguards⟩ := h.guards hfeed hne hb hline
  have hread := (Condition.ofText_eq_ok_iff_renders hguards.2.1).2 (h.isRead hfeed)
  have hrules := h.opens_rule hne hb
  -- From here on only what the scans say of the line counts, not how it is written.
  generalize guard ++ b ++ ['d', 'o'] = t at hstrip hrules
  have hheader : Construct.isHeader t = true := by
    obtain ⟨t', hstrip', hpart⟩ := hguards.beforeDo?
    rw [hstrip] at hstrip'
    cases hstrip'
    exact Option.isSome_iff_exists.2 ⟨guard, hpart⟩
  have hfilter := Construct.filter_opens_rulesAndEvents hrules hheader
  have hfind : Construct.rulesAndEvents.find? (·.opens t) = some .eventBlock := by
    rw [← List.head?_filter, hfilter]
    rfl
  refine ⟨t, hstrip, hfilter, ?begins, ?opens, ?reads⟩
  case begins =>
    intro number rest
    have hbegin : Item.begin? Construct.rulesAndEvents number line t =
        .ok (.start .eventBlock number line t) := Item.begin?_eq_ok_iff.2 ⟨_, hfind, rfl⟩
    have hopens : Construct.opens .eventBlock t = true := hheader
    have hmore : (Item.Open.start .eventBlock number line t).isComplete = .ok false := rfl
    rw [Item.listFrom_first hstrip (Construct.ne_nil_of_opens hopens), hbegin, Except.ok_bind,
      Item.resume_of_more hmore]
  case opens =>
    intro o hblock
    rw [Item.Open.depth_feed hblock, Construct.depthAfter,
      Construct.isEnd_eq_false_of_isHeader hheader, if_neg Bool.false_ne_true, if_pos hheader]
  case reads =>
    intro u items hitems i hi hhead
    obtain ⟨number, line', rest, t', hnumbered, hstrip', hfind', -⟩ :=
      ((Item.list_eq_ok_iff.1 hitems).2 i hi).begins
    obtain ⟨rest', hlines⟩ := List.head?_eq_some_iff.1 hhead
    rw [SourceUnit.numberedLines, hlines] at hnumbered
    cases hnumbered
    rw [hstrip] at hstrip'
    cases hstrip'
    rw [hfind] at hfind'
    have hc := (Option.some.inj hfind').symm
    exact ⟨hc, fun s e => ofItem_eq_ok_iff_of_guards hc hhead hguards hread⟩

end

/-- An event block without rules, whose guard asks for the states of two events. -/
def EventBlock.guardedByTwo : SourceUnit :=
  ⟨4, ["  ev.on&& (not other.off) do".toList, "end".toList],
    "ev.on&& (not other.off) do end".toList⟩

theorem EventBlock.guard_line_is_header_two :
    Item.list guardedByTwo Construct.rulesAndEvents = .ok [⟨.eventBlock, guardedByTwo⟩] ∧
      EventBlock.ofItem ⟨[], [], [], .bare 0⟩ ⟨.eventBlock, guardedByTwo⟩ =
        .ok ⟨.all [.leaf ⟨"ev".toList, .compare .eq (.string "on".toList)⟩,
          .leaf ⟨"other".toList, .negation (.compare .eq (.string "off".toList))⟩],
          .ofList [], guardedByTwo⟩ := by
  have hon : Condition.Written (Leaf.UnderNots Leaf.IsPointed) (.operand .all)
      (.leaf ⟨"ev".toList, .compare .eq (.string "on".toList)⟩) "ev.on".toList :=
    .leaf (.self ⟨"ev".toList, "on".toList, by decide, .inl rfl, rfl, rfl⟩)
  have hoff : Condition.Written (Leaf.UnderNots Leaf.IsPointed) .whole
      (.leaf ⟨"other".toList, .negation (.compare .eq (.string "off".toList))⟩)
      "not other.off".toList :=
    .leaf (@Leaf.UnderNots.negation _ [' '] _ ⟨"other".toList, .compare .eq (.string "off".toList)⟩
      (by decide) (by decide) (.self ⟨"other".toList, "off".toList, by decide, .inr rfl, rfl, rfl⟩))
  have hboth := @Condition.WrittenAll.cons _ .all _ _ _ [] [' '] _ hon rfl rfl
    (.last (@Condition.Written.parens _ (.operand .all) _ [] _ [] rfl rfl hoff))
  have hlist : Item.list guardedByTwo Construct.rulesAndEvents =
      .ok [⟨.eventBlock, guardedByTwo⟩] := by decide +kernel
  obtain ⟨_, _, _, _, _, hreads⟩ := guard_line_is_header (.node trivial (by decide) hboth)
    (by decide) (List.cons_ne_nil ' ' []) rfl ⟨[' ', ' '], [], rfl, rfl, rfl⟩
  have hread := (hreads _ _ hlist _ (List.mem_singleton_self _) rfl).2
  exact ⟨hlist, (hread _ _).2 ⟨rfl, ⟨⟨5, [], []⟩, [], [], rfl, rfl, rfl, rfl⟩, rfl⟩⟩

end Overlay
