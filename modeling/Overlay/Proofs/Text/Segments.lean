import Overlay.Proofs.Text.Nesting
import Mathlib.Data.List.Chain

/-!
The segments of a text. The scan for brackets cuts a text into its groups, the literals
outside of all groups, and what stands between these; a text has one such segmentation
at most, and it has one when its brackets pair off. Together with the two ways in which
brackets do not pair off this is all that the scan can answer.
-/

namespace Overlay.Text

/-- Whether a text is a pair of brackets with a balanced text between. -/
def IsBracketed (t : Text) : Prop :=
  ∃ o c body bs, closer? o = some c ∧ Balanced body bs ∧ t = o :: body ++ [c]

/-- The segments of a text: groups and literals, one in each inside stretch, and between
them all that is left, in as few stretches as possible. -/
structure IsSegmented (t : Text) (ss : List Stretch) : Prop where
  whole : Stretch.flatten ss = t
  inside : ∀ u ∈ Stretch.insides ss, IsBracketed u ∨ IsLiteral u
  outside : ∀ u ∈ Stretch.outsides ss, u ≠ [] ∧ ∀ c ∈ u, c ≠ '"' ∧ isBracket c = false
  separated : ss.IsChain fun s s' => s.isInside = true ∨ s'.isInside = true

/-! The stretches of a balanced text are its segments. -/

theorem Balanced.of_mem_literal {t g : Text} {as : List Token} (h : Balanced t as)
    (hg : Token.literal g ∈ as) : IsBracketed g ∨ IsLiteral g := by
  induction h with
  | nil => cases hg
  | char _ _ _ _ _ ih => exact ih (by simpa using hg)
  | literal hl _ ih =>
      rcases List.mem_cons.1 hg with heq | hg
      · cases heq
        exact .inr hl
      · exact ih hg
  | group ho hbody _ _ ih =>
      rcases List.mem_cons.1 hg with heq | hg
      · cases heq
        exact .inl ⟨_, _, _, _, ho, hbody, rfl⟩
      · exact ih hg

theorem Balanced.of_mem_char {t : Text} {as : List Token} (h : Balanced t as) {c : Char}
    (hc : Token.char c ∈ as) : c ≠ '"' ∧ isBracket c = false := by
  induction h with
  | nil => cases hc
  | char hq ho hcloser _ _ ih =>
      rcases List.mem_cons.1 hc with heq | hc
      · cases heq
        exact ⟨hq, by simp [isBracket, ho, hcloser]⟩
      · exact ih hc
  | literal _ _ ih => exact ih (by simpa using hc)
  | group _ _ _ _ ih => exact ih (by simpa using hc)

theorem mem_insides_stretchesFrom {begun g : Text} {as : List Token}
    (h : g ∈ Stretch.insides (stretchesFrom begun as)) : Token.literal g ∈ as := by
  induction as generalizing begun with
  | nil =>
      rw [stretchesFrom, Stretch.insides_outsideUnlessEmpty] at h
      cases h
  | cons a as ih =>
      cases a with
      | char c => exact List.mem_cons_of_mem _ (ih h)
      | literal l =>
          rw [stretchesFrom, Stretch.insides_outsideUnlessEmpty] at h
          rcases List.mem_cons.1 h with rfl | h
          · exact List.mem_cons_self
          · exact List.mem_cons_of_mem _ (ih h)

theorem mem_outsides_outsideUnlessEmpty {g u : Text} {ss : List Stretch} :
    u ∈ Stretch.outsides (Stretch.outsideUnlessEmpty g ss) ↔
      u = g ∧ u ≠ [] ∨ u ∈ Stretch.outsides ss := by
  rw [Stretch.outsides_outsideUnlessEmpty, List.mem_append, List.mem_filter,
    List.mem_singleton, Bool.not_eq_true', List.isEmpty_eq_false_iff]

/-- An outside stretch is not empty, and all its characters are units. -/
theorem mem_outsides_stretchesFrom {begun u : Text} {as : List Token}
    (h : u ∈ Stretch.outsides (stretchesFrom begun as)) :
    u ≠ [] ∧ ∀ c ∈ u, c ∈ begun ∨ Token.char c ∈ as := by
  induction as generalizing begun with
  | nil =>
      rcases mem_outsides_outsideUnlessEmpty.1 h with ⟨rfl, hne⟩ | h
      · exact ⟨hne, fun c hc => .inl (List.mem_reverse.1 hc)⟩
      · cases h
  | cons a as ih =>
      cases a with
      | char c =>
          obtain ⟨hne, hall⟩ := ih h
          refine ⟨hne, fun d hd => ?_⟩
          rcases hall d hd with hd | hd
          · rcases List.mem_cons.1 hd with rfl | hd
            · exact .inr List.mem_cons_self
            · exact .inl hd
          · exact .inr (List.mem_cons_of_mem _ hd)
      | literal l =>
          rcases mem_outsides_outsideUnlessEmpty.1 h with ⟨rfl, hne⟩ | h
          · exact ⟨hne, fun c hc => .inl (List.mem_reverse.1 hc)⟩
          · obtain ⟨hne, hall⟩ := ih h
            exact ⟨hne, fun d hd =>
              .inr (List.mem_cons_of_mem _ ((hall d hd).resolve_left List.not_mem_nil))⟩

theorem isChain_stretchesFrom (begun : Text) (as : List Token) :
    (stretchesFrom begun as).IsChain fun s s' => s.isInside = true ∨ s'.isInside = true := by
  induction as generalizing begun with
  | nil =>
      rw [stretchesFrom]
      cases begun.reverse with
      | nil => exact .nil
      | cons c u => exact .singleton _
  | cons a as ih =>
      cases a with
      | char c => exact ih _
      | literal l =>
          have hrest : (Stretch.inside l :: stretchesFrom [] as).IsChain
              fun s s' => s.isInside = true ∨ s'.isInside = true :=
            List.isChain_cons.2 ⟨fun _ _ => .inl rfl, ih []⟩
          rw [stretchesFrom]
          cases begun.reverse with
          | nil => exact hrest
          | cons c u => exact List.isChain_cons_cons.2 ⟨.inr rfl, hrest⟩

theorem Balanced.isSegmented {t : Text} {as : List Token} (h : Balanced t as) :
    IsSegmented t (stretchesFrom [] as) where
  whole := flatten_of_brackets (brackets_eq_ok_iff.2 ⟨as, h, rfl⟩)
  inside _ hu := h.of_mem_literal (mem_insides_stretchesFrom hu)
  outside u hu := by
    obtain ⟨hne, hall⟩ := mem_outsides_stretchesFrom hu
    exact ⟨hne, fun c hc => h.of_mem_char ((hall c hc).resolve_left List.not_mem_nil)⟩
  separated := isChain_stretchesFrom [] as

/-! The segments of a text are its stretches. -/

theorem Quoted.of_isBracketed {g : Text} (h : IsBracketed g) : ∃ ts, Quoted g ts := by
  obtain ⟨o, c, body, bs, ho, hbody, rfl⟩ := h
  obtain ⟨ts, hts, -⟩ := balanced_iff.1 (Balanced.group ho hbody .nil)
  exact ⟨ts, hts⟩

/-- Characters other than quotes and brackets are units. -/
theorem balanced_of_outside {u t : Text} {as ts : List Token}
    (hu : ∀ c ∈ u, c ≠ '"' ∧ isBracket c = false) (h : Quoted (u ++ t) ts)
    (hrest : ∀ us, Quoted t us → Balanced t as) : Balanced (u ++ t) (u.map .char ++ as) := by
  induction u generalizing ts with
  | nil => exact hrest ts h
  | cons c u ih =>
      obtain ⟨hc, hplain⟩ := hu c List.mem_cons_self
      obtain ⟨hopen, hclose⟩ : closer? c = none ∧ isCloser c = false := by
        simpa [isBracket] using hplain
      obtain ⟨us, hesc, hus⟩ := h.of_cons hc
      exact .char hc hopen hclose hesc (ih (fun d hd => hu d (List.mem_cons_of_mem c hd)) hus)

/-- Segments of a text with closed literals are its units. -/
theorem balanced_of_segments {ss : List Stretch}
    (hinside : ∀ u ∈ Stretch.insides ss, IsBracketed u ∨ IsLiteral u)
    (houtside : ∀ u ∈ Stretch.outsides ss, ∀ c ∈ u, c ≠ '"' ∧ isBracket c = false)
    {ts : List Token} (h : Quoted (Stretch.flatten ss) ts) :
    Balanced (Stretch.flatten ss) (tokens ss) := by
  induction ss generalizing ts with
  | nil => exact .nil
  | cons s ss ih =>
      rw [Stretch.flatten_cons] at h ⊢
      cases s with
      | inside g =>
          have hrest {vs : List Token} (hvs : Quoted (Stretch.flatten ss) vs) :=
            ih (fun u hu => hinside u (List.mem_cons_of_mem g hu)) houtside hvs
          rcases hinside g List.mem_cons_self with hg | hg
          · obtain ⟨us, hus⟩ := Quoted.of_isBracketed hg
            obtain ⟨vs, -, hvs⟩ := hus.of_append h
            obtain ⟨o, c, body, bs, ho, hbody, rfl⟩ := hg
            have hgroup := Balanced.group ho hbody (hrest hvs)
            simpa [Stretch.text, tokens] using hgroup
          · obtain ⟨vs, -, hvs⟩ := h.of_literal_append hg
            exact .literal hg (hrest hvs)
      | outside u =>
          exact balanced_of_outside (houtside u List.mem_cons_self) h fun us hus =>
            ih hinside (fun v hv => houtside v (List.mem_cons_of_mem u hv)) hus

/-- The units are cut into the stretches again. -/
theorem stretchesFrom_tokens {ss : List Stretch}
    (hne : ∀ u ∈ Stretch.outsides ss, u ≠ [])
    (h : ss.IsChain fun s s' => s.isInside = true ∨ s'.isInside = true) :
    stretchesFrom [] (tokens ss) = ss := by
  induction ss with
  | nil => rfl
  | cons s ss ih =>
      obtain ⟨hnext, hchain⟩ := List.isChain_cons.1 h
      cases s with
      | inside g => exact congrArg (.inside g :: ·) (ih hne hchain)
      | outside u =>
          have hu : u ≠ [] := hne u List.mem_cons_self
          have hrest := ih (fun v hv => hne v (List.mem_cons_of_mem u hv)) hchain
          have hfirst : tokens (.outside u :: ss) = u.map .char ++ tokens ss := rfl
          rw [hfirst, stretchesFrom_chars_append, List.append_nil]
          -- What comes next is a group, a literal or the end, which ends the stretch.
          cases ss with
          | nil => simp [tokens, stretchesFrom, Stretch.outsideUnlessEmpty, hu]
          | cons s ss =>
              cases s with
              | outside v => simpa [Stretch.isInside] using hnext _ rfl
              | inside g =>
                  have hend : stretchesFrom u.reverse (tokens (.inside g :: ss)) =
                      Stretch.outsideUnlessEmpty u.reverse.reverse
                        (stretchesFrom [] (tokens (.inside g :: ss))) := rfl
                  rw [hend, hrest, List.reverse_reverse, Stretch.outsideUnlessEmpty_of_ne_nil hu]

theorem brackets_eq_ok_iff_isSegmented {t : Text} {ts : List Token} (hts : Quoted t ts)
    {ss : List Stretch} : t.brackets = .ok ss ↔ IsSegmented t ss := by
  rw [brackets_eq_ok_iff]
  constructor
  · rintro ⟨as, has, rfl⟩
    exact has.isSegmented
  · rintro ⟨rfl, hinside, houtside, hseparated⟩
    have hunits := balanced_of_segments hinside (fun u hu => (houtside u hu).2) hts
    have hcut := stretchesFrom_tokens (fun u hu => (houtside u hu).1) hseparated
    exact ⟨tokens ss, hunits, hcut.symm⟩

/-! What the scan answers. -/

theorem bracketDepth_eq_error_iff {t : Text} {ts : List Token} (hts : Quoted t ts) {e : Fault} :
    t.bracketDepth = .error e ↔ ∃ c, strayCloser? [] ts = some c ∧ e = .unmatchedClosing c := by
  rw [bracketDepth, bracketStructure_of_quoted hts,
    ← @structureFrom_eq_error_iff [] [] ts e, Except.bind_eq_error_iff]
  simp [pure, Except.pure]

/-- The brackets of a text outside of literals, read as a word, decide what the scan for
brackets gives and how deep the text ends. A closing bracket that matches nothing is a
fault for both. Otherwise the depth is the number of brackets that are left open; when
there are any, the scan misses what closes the innermost one, and when there are none it
gives the segments of the text. What is wrong with the quotes is wrong for both. -/
theorem brackets_and_bracketDepth_by_word (t : Text) :
    (∀ e, t.quotes = .error e → t.brackets = .error e ∧ t.bracketDepth = .error e) ∧
    ∀ ss, t.quotes = .ok ss →
      (∀ c, IsStray (bracketWord ss) c →
        t.brackets = .error (.unmatchedClosing c) ∧
        t.bracketDepth = .error (.unmatchedClosing c)) ∧
      ((∃ c, IsStray (bracketWord ss) c) ∨ ∃ os, LeavesOpen (bracketWord ss) os) ∧
      ∀ os, LeavesOpen (bracketWord ss) os →
        t.bracketDepth = .ok os.length ∧
        (∀ o, os.head? = some o →
          ∃ c, closer? o = some c ∧ t.brackets = .error (.unmatchedOpening c)) ∧
        (os = [] → (∃ parts, t.brackets = .ok parts) ∧
          ∀ parts, t.brackets = .ok parts ↔ IsSegmented t parts) := by
  refine ⟨fun e he => ?_, fun ss hss => ?_⟩
  · have hscan : t.bracketStructure = .error e := by
      rw [bracketStructure, he]
      rfl
    rw [brackets, bracketDepth, hscan]
    exact ⟨rfl, rfl⟩
  obtain ⟨ts, hts, rfl⟩ := quotes_eq_ok_iff.1 hss
  rw [bracketWord_stretchesFrom]
  refine ⟨fun c hc => ?_, ?_, fun os hos => ?_⟩
  · have hfirst := isStray_wordOf_iff.1 hc
    exact ⟨(brackets_eq_error_iff hts).2 (.inl ⟨c, hfirst, rfl⟩),
      (bracketDepth_eq_error_iff hts).2 ⟨c, hfirst, rfl⟩⟩
  · cases hfirst : strayCloser? [] ts with
    | some c => exact .inl ⟨c, isStray_wordOf_iff.2 hfirst⟩
    | none =>
        obtain ⟨es, hes⟩ := strayCloser?_eq_none_iff.1 hfirst
        rw [← expectedAfter_wordOf] at hes
        obtain ⟨os, hos, -⟩ := exists_leavesOpen (fun _ => isBracket_of_mem_wordOf) hes
        exact .inr ⟨os, hos⟩
  · obtain ⟨es, hes, hall⟩ := hos.expectedAfter
    rw [expectedAfter_wordOf] at hes
    have hdepth : t.bracketDepth = .ok os.length :=
      bracketDepth_eq_ok_iff.2 ⟨ts, es, hts, hes, hall.length_eq.symm⟩
    refine ⟨hdepth, fun o ho => ?_, ?_⟩
    · obtain ⟨os, rfl⟩ := List.head?_eq_some_iff.1 ho
      obtain ⟨c, es, hclose, -, rfl⟩ := List.forall₂_cons_left_iff.1 hall
      exact ⟨c, hclose, (brackets_eq_error_iff hts).2 (.inr ⟨c, es, hes, rfl⟩)⟩
    · rintro rfl
      obtain ⟨as, has⟩ := exists_balanced_of_bracketDepth hdepth
      exact ⟨⟨_, brackets_eq_ok_iff.2 ⟨as, has, rfl⟩⟩,
        fun parts => brackets_eq_ok_iff_isSegmented hts⟩

/-- A quote that is not closed, a bracket that is closed by another, brackets that are
left open, and a text with two groups side by side, one with a literal in it. -/
theorem brackets_and_bracketDepth_by_word_cases :
    (brackets ['"'] = .error .unterminatedQuote ∧
      bracketDepth ['"'] = .error .unterminatedQuote) ∧
    (brackets "([)".toList = .error (.unmatchedClosing ')') ∧
      bracketDepth "([)".toList = .error (.unmatchedClosing ')')) ∧
    (bracketDepth "([".toList = .ok 2 ∧
      ∃ c, closer? '[' = some c ∧ brackets "([".toList = .error (.unmatchedOpening c)) ∧
    IsSegmented "a(\")\")[b]".toList
      [.outside ['a'], .inside "(\")\")".toList, .inside "[b]".toList] := by
  have hopen : LeavesOpen ['(', '['] ['[', '('] :=
    @LeavesOpen.opening '[' ']' ['('] [] _ rfl
      (@LeavesOpen.opening '(' ')' [] [] _ rfl (.paired .nil) .nil) .nil
  have hstray : IsStray ['(', '[', ')'] ')' :=
    ⟨['(', '['], [], ['[', '('], rfl, hopen, rfl, by decide⟩
  have hpaired : Paired ['(', ')', '[', ']'] :=
    @Paired.group '(' ')' [] ['[', ']'] rfl .nil (@Paired.group '[' ']' [] [] rfl .nil .nil)
  refine ⟨(brackets_and_bracketDepth_by_word ['"']).1 _ rfl,
    ((brackets_and_bracketDepth_by_word "([)".toList).2 [.outside "([)".toList] rfl).1 ')' hstray,
    ?_, ?_⟩
  · have hresult := ((brackets_and_bracketDepth_by_word "([".toList).2
      [.outside "([".toList] rfl).2.2 ['[', '('] hopen
    exact ⟨hresult.1, hresult.2.1 '[' rfl⟩
  · have hresult := ((brackets_and_bracketDepth_by_word "a(\")\")[b]".toList).2
      [.outside "a(".toList, .inside "\")\"".toList, .outside ")[b]".toList] rfl).2.2 []
      (.paired hpaired)
    exact ((hresult.2.2 rfl).2 _).1 (by decide)

end Overlay.Text
