import Overlay.Proofs.Text.Quote

/-!
Balanced texts, as a grammar. A balanced text is a sequence of characters, of
literals and of groups, which are balanced texts in a pair of brackets. The
scan for brackets succeeds exactly on the balanced texts, and its stretches
are those of the sequence, with groups and literals as units.
-/

namespace Overlay.Text

/-- The grammar of brackets over tokens. -/
inductive Grouped : List Token → List Token → Prop
  | nil : Grouped [] []
  | char {c : Char} {ts as : List Token} (ho : closer? c = none) (hc : isCloser c = false) :
      Grouped ts as → Grouped (.char c :: ts) (.char c :: as)
  | literal {t : Text} {ts as : List Token} : Grouped ts as →
      Grouped (.literal t :: ts) (.literal t :: as)
  | group {o c : Char} {body bs ts as : List Token} (ho : closer? o = some c) :
      Grouped body bs → Grouped ts as →
      Grouped (.char o :: body ++ .char c :: ts) (.literal (o :: Token.flatten body ++ [c]) :: as)

/-- A balanced text and its units. -/
inductive Balanced : Text → List Token → Prop
  | nil : Balanced [] []
  | char {c : Char} {t : Text} {as : List Token} (hq : c ≠ '"') (ho : closer? c = none)
      (hc : isCloser c = false) (hesc : c = '\\' → t.head? ≠ some '"') :
      Balanced t as → Balanced (c :: t) (.char c :: as)
  | literal {l t : Text} {as : List Token} : IsLiteral l → Balanced t as →
      Balanced (l ++ t) (.literal l :: as)
  | group {o c : Char} {body t : Text} {bs as : List Token} (ho : closer? o = some c) :
      Balanced body bs → Balanced t as →
      Balanced (o :: body ++ c :: t) (.literal (o :: body ++ [c]) :: as)

theorem closer?_eq_some_iff {o c : Char} :
    closer? o = some c ↔ o = '(' ∧ c = ')' ∨ o = '[' ∧ c = ']' := by
  unfold closer?
  split
  · next h => simp [h, eq_comm]
  · next h =>
    split
    · next h' => simp [h', eq_comm]
    · next h' => simp [h, h']

theorem closer?_of_isCloser {c : Char} (h : isCloser c = true) : closer? c = none := by
  simp only [isCloser, Bool.or_eq_true, beq_iff_eq] at h
  rcases h with rfl | rfl <;> rfl

theorem isCloser_of_closer? {o c : Char} (h : closer? o = some c) : isCloser c = true := by
  rcases closer?_eq_some_iff.1 h with ⟨-, rfl⟩ | ⟨-, rfl⟩ <;> rfl

theorem ne_quote_of_closer? {o c : Char} (h : closer? o = some c) : o ≠ '"' ∧ c ≠ '"' := by
  rcases closer?_eq_some_iff.1 h with ⟨rfl, rfl⟩ | ⟨rfl, rfl⟩ <;> decide

theorem ne_backslash_of_closer? {o c : Char} (h : closer? o = some c) :
    o ≠ '\\' ∧ c ≠ '\\' := by
  rcases closer?_eq_some_iff.1 h with ⟨rfl, rfl⟩ | ⟨rfl, rfl⟩ <;> decide

theorem isBlank_of_closer? {o c : Char} (h : closer? o = some c) :
    isBlank o = false ∧ isBlank c = false := by
  rcases closer?_eq_some_iff.1 h with ⟨rfl, rfl⟩ | ⟨rfl, rfl⟩ <;> decide

/-- The scan passes over a sequence of tokens inside a group. -/
theorem structureFrom_grouped {body bs : List Token} (h : Grouped body bs) (e : Char)
    (outer : List Char) (begun : Text) (rest : List Token) :
    structureFrom (e :: outer) begun (body ++ rest) =
      structureFrom (e :: outer) ((Token.flatten body).reverse ++ begun) rest := by
  induction h generalizing e outer begun rest with
  | nil => rfl
  | char ho hc _ ih =>
      simp [structureFrom, ho, hc, ih, Token.flatten, Token.text]
  | literal _ ih =>
      simp [structureFrom, ih, Token.flatten, Token.text]
  | group ho _ _ ihbody ih =>
      have hcloser := isCloser_of_closer? ho
      simp [structureFrom, ho, closer?_of_isCloser hcloser, hcloser, ihbody, ih, Token.flatten,
        Token.text]

theorem structureFrom_of_grouped {ts as : List Token} (h : Grouped ts as) (begun : Text) :
    structureFrom [] begun ts = .ok ⟨stretchesFrom begun as, []⟩ := by
  induction h generalizing begun with
  | nil => rfl
  | char ho hc _ ih => simp [structureFrom, ho, hc, ih, stretchesFrom]
  | literal _ ih => simp [structureFrom, ih, stretchesFrom, Structure.cons, Structure.consOutside]
  | group ho hbody _ _ ih =>
      have hcloser := isCloser_of_closer? ho
      simp [structureFrom, ho, structureFrom_grouped hbody, closer?_of_isCloser hcloser, hcloser,
        ih, stretchesFrom, Structure.cons, Structure.consOutside]

/-- What a successful scan has found up to the end of the innermost group that
is open. -/
theorem exists_group_of_structureFrom {e : Char} {outer : List Char} {begun : Text}
    {ts : List Token} {r : Structure}
    (h : structureFrom (e :: outer) begun ts = .ok r) (hclosed : r.expected = []) :
    ∃ body bs rest, ts = body ++ .char e :: rest ∧ Grouped body bs ∧
      structureFrom (e :: outer) ((Token.flatten body).reverse ++ begun) (.char e :: rest) =
        .ok r := by
  -- A group inside is passed over as a whole, so the induction is on the length.
  induction hlen : ts.length using Nat.strongRecOn generalizing e outer begun ts with
  | ind n ih =>
      subst hlen
      cases ts with
      | nil =>
          cases h
          cases hclosed
      | cons a ts =>
          cases a with
          | literal t =>
              have hstep : structureFrom (e :: outer) (t.reverse ++ begun) ts = .ok r := h
              obtain ⟨body, bs, rest, rfl, hbody, hrest⟩ := ih ts.length (by simp) hstep rfl
              refine ⟨.literal t :: body, _, rest, rfl, .literal hbody, ?_⟩
              simpa [Token.flatten, Token.text] using hrest
          | char c =>
              cases ho : closer? c with
              | some d =>
                  have hstep : structureFrom (d :: e :: outer) (c :: begun) ts = .ok r := by
                    simpa [structureFrom, ho] using h
                  obtain ⟨inner, is, rest, rfl, hinner, hclose⟩ := ih ts.length (by simp) hstep rfl
                  have hcloser := isCloser_of_closer? ho
                  have hstep : structureFrom (e :: outer)
                      (d :: ((Token.flatten inner).reverse ++ c :: begun)) rest = .ok r := by
                    simpa [structureFrom, closer?_of_isCloser hcloser, hcloser] using hclose
                  have hlt : rest.length < (Token.char c :: (inner ++ .char d :: rest)).length := by
                    simp only [List.length_cons, List.length_append]
                    omega
                  obtain ⟨body, bs, rest, rfl, hbody, hrest⟩ := ih rest.length hlt hstep rfl
                  refine ⟨.char c :: inner ++ .char d :: body, _, rest, by simp,
                    .group ho hinner hbody, ?_⟩
                  simpa [Token.flatten, Token.text] using hrest
              | none =>
                  cases hc : isCloser c with
                  | true =>
                      by_cases heq : e = c
                      · subst heq
                        exact ⟨[], [], ts, rfl, .nil, h⟩
                      · simp [structureFrom, ho, hc, heq] at h
                  | false =>
                      have hstep : structureFrom (e :: outer) (c :: begun) ts = .ok r := by
                        simpa [structureFrom, ho, hc] using h
                      obtain ⟨body, bs, rest, rfl, hbody, hrest⟩ :=
                        ih ts.length (by simp) hstep rfl
                      refine ⟨.char c :: body, _, rest, rfl, .char ho hc hbody, ?_⟩
                      simpa [Token.flatten, Token.text] using hrest

theorem grouped_of_structureFrom {begun : Text} {ts : List Token} {r : Structure}
    (h : structureFrom [] begun ts = .ok r) (hclosed : r.expected = []) :
    ∃ as, Grouped ts as ∧ r.stretches = stretchesFrom begun as := by
  -- A group is passed over as a whole, so the induction is on the length of what is left.
  induction hlen : ts.length using Nat.strongRecOn generalizing begun ts r with
  | ind n ih =>
      subst hlen
      cases ts with
      | nil =>
          cases h
          exact ⟨[], .nil, rfl⟩
      | cons a ts =>
          cases a with
          | literal t =>
              obtain ⟨r', hr, rfl⟩ := Except.map_eq_ok_iff.1 h
              obtain ⟨as, has, hs⟩ := ih ts.length (by simp) hr hclosed rfl
              refine ⟨.literal t :: as, .literal has, ?_⟩
              simp [Structure.cons, Structure.consOutside, stretchesFrom, hs]
          | char c =>
              cases ho : closer? c with
              | some d =>
                  simp only [structureFrom, ho, List.isEmpty_nil, if_true] at h
                  obtain ⟨r', hr, rfl⟩ := Except.map_eq_ok_iff.1 h
                  obtain ⟨body, bs, rest, rfl, hbody, hclose⟩ :=
                    exists_group_of_structureFrom hr hclosed
                  have hcloser := isCloser_of_closer? ho
                  simp only [structureFrom, closer?_of_isCloser hcloser, hcloser, if_true,
                    List.isEmpty_nil] at hclose
                  obtain ⟨r'', hr', rfl⟩ := Except.map_eq_ok_iff.1 hclose
                  have hlt : rest.length < (Token.char c :: (body ++ .char d :: rest)).length := by
                    simp only [List.length_cons, List.length_append]
                    omega
                  obtain ⟨as, has, hs⟩ := ih rest.length hlt hr' hclosed rfl
                  refine ⟨_, .group ho hbody has, ?_⟩
                  simp [Structure.cons, Structure.consOutside, stretchesFrom, hs]
              | none =>
                  cases hc : isCloser c with
                  | true => simp [structureFrom, ho, hc] at h
                  | false =>
                      have hstep : structureFrom [] (c :: begun) ts = .ok r := by
                        simpa [structureFrom, ho, hc] using h
                      obtain ⟨as, has, hs⟩ := ih ts.length (by simp) hstep hclosed rfl
                      exact ⟨.char c :: as, .char ho hc has, hs⟩

/-- The two scans that find the units of a text, on the text itself. -/
theorem balanced_iff {t : Text} {as : List Token} :
    Balanced t as ↔ ∃ ts, Quoted t ts ∧ Grouped ts as := by
  constructor
  · intro h
    induction h with
    | nil => exact ⟨[], .nil, .nil⟩
    | @char c t as hq ho hc hesc _ ih =>
        obtain ⟨ts, hts, has⟩ := ih
        exact ⟨.char c :: ts, .char hq hesc hts, .char ho hc has⟩
    | @literal l t as hl _ ih =>
        obtain ⟨ts, hts, has⟩ := ih
        exact ⟨.literal l :: ts, .literal hl hts, .literal has⟩
    | @group o c body t bs as ho _ _ ihbody ih =>
        obtain ⟨us, hus, hbs⟩ := ihbody
        obtain ⟨ts, hts, has⟩ := ih
        have hgroup := Grouped.group ho hbs has
        rw [hus.flatten] at hgroup
        refine ⟨_, ?_, hgroup⟩
        -- Neither bracket is a quote or a backslash, so no literal begins or ends at them.
        have hquote := ne_quote_of_closer? ho
        have hback := ne_backslash_of_closer? ho
        have hrest : Quoted (c :: t) (.char c :: ts) :=
          .char hquote.2 (fun heq => absurd heq hback.2) hts
        refine .char hquote.1 (fun heq => absurd heq hback.1) (hus.append_of_head hrest ?_)
        simpa using hquote.2
  · rintro ⟨ts, hts, has⟩
    induction has generalizing t with
    | nil =>
        cases hts
        exact .nil
    | char ho hc _ ih =>
        cases hts with
        | char hq hesc hts => exact .char hq ho hc hesc (ih hts)
    | literal _ ih =>
        cases hts with
        | literal hl hts => exact .literal hl (ih hts)
    | @group o c body bs ts as ho _ _ ihbody ih =>
        cases hts with
        | char hq hesc hts =>
            obtain ⟨a, b, rfl, ha, hb⟩ := hts.split
            cases hb with
            | char hq' hesc' hb =>
                rw [ha.flatten]
                exact .group ho (ihbody ha) (ih hb)

/-- A scan for brackets succeeds exactly on the balanced texts. -/
theorem brackets_eq_ok_iff {t : Text} {ss : List Stretch} :
    t.brackets = .ok ss ↔ ∃ as, Balanced t as ∧ ss = stretchesFrom [] as := by
  simp only [brackets, bracketStructure, Except.bind_eq_ok_iff]
  constructor
  · rintro ⟨r, ⟨qs, hqs, hr⟩, h⟩
    obtain ⟨ts, hts, rfl⟩ := quotes_eq_ok_iff.1 hqs
    rw [tokens_stretchesFrom] at hr
    split at h
    · next hclosed =>
      cases h
      obtain ⟨as, has, hs⟩ := grouped_of_structureFrom hr hclosed
      exact ⟨as, balanced_iff.2 ⟨ts, hts, has⟩, hs⟩
    · cases h
  · rintro ⟨as, has, rfl⟩
    obtain ⟨ts, hts, hgroup⟩ := balanced_iff.1 has
    refine ⟨⟨stretchesFrom [] as, []⟩, ⟨_, quotes_eq_ok_iff.2 ⟨ts, hts, rfl⟩, ?_⟩, rfl⟩
    rw [tokens_stretchesFrom]
    exact structureFrom_of_grouped hgroup []

theorem Balanced.flatten {t : Text} {as : List Token} (h : Balanced t as) :
    Token.flatten as = t := by
  induction h with
  | nil => rfl
  | char _ _ _ _ _ ih => simpa [Token.flatten, Token.text] using ih
  | literal _ _ ih => simpa [Token.flatten, Token.text] using ih
  | group _ _ _ _ ih => simpa [Token.flatten, Token.text] using ih

/-- A text is balanced in one way only. -/
theorem Balanced.unique {t : Text} {as bs : List Token} (ha : Balanced t as)
    (hb : Balanced t bs) : as = bs := by
  have hs := brackets_eq_ok_iff.2 ⟨as, ha, rfl⟩
  rw [brackets_eq_ok_iff.2 ⟨bs, hb, rfl⟩] at hs
  have htokens := congrArg tokens (Except.ok.inj hs)
  simpa [tokens_stretchesFrom] using htokens.symm

/-- Balanced texts can be put together, unless a backslash would come to stand
before a quote. -/
theorem Balanced.append {s t : Text} {as bs : List Token} (hs : Balanced s as)
    (ht : Balanced t bs) (hseam : s.getLast? = some '\\' → t.head? ≠ some '"') :
    Balanced (s ++ t) (as ++ bs) := by
  induction hs with
  | nil => exact ht
  | @char c s as hq ho hc hesc _ ih =>
      refine .char hq ho hc (fun heq => ?_) (ih fun hlast => hseam ?_)
      · cases s with
        | nil => exact hseam (by simp [heq])
        | cons d s => exact hesc heq
      · rw [List.getLast?_cons, hlast]
        rfl
  | @literal l s as hl _ ih =>
      rw [List.append_assoc]
      refine .literal hl (ih fun hlast => hseam ?_)
      rw [List.getLast?_append, hlast]
      rfl
  | @group o c body s cs as ho hbody _ _ ih =>
      rw [List.append_assoc, List.cons_append]
      refine .group ho hbody (ih fun hlast => hseam ?_)
      rw [List.getLast?_append, List.getLast?_cons, hlast]
      rfl

/-- Balanced texts can be taken apart between any two units. -/
theorem Balanced.split {t : Text} {as bs : List Token} (h : Balanced t (as ++ bs)) :
    ∃ u v, t = u ++ v ∧ Balanced u as ∧ Balanced v bs := by
  induction as generalizing t with
  | nil => exact ⟨[], t, rfl, .nil, h⟩
  | cons a as ih =>
      cases h with
      | @char c t _ hq ho hc hesc h =>
          obtain ⟨u, v, rfl, hu, hv⟩ := ih h
          refine ⟨c :: u, v, rfl, .char hq ho hc (fun heq hhead => hesc heq ?_) hu, hv⟩
          rw [List.head?_append, hhead]
          rfl
      | @literal l t _ hl h =>
          obtain ⟨u, v, rfl, hu, hv⟩ := ih h
          exact ⟨l ++ u, v, (List.append_assoc l u v).symm, .literal hl hu, hv⟩
      | @group o c body t cs _ ho hbody h =>
          obtain ⟨u, v, rfl, hu, hv⟩ := ih h
          exact ⟨o :: body ++ c :: u, v, by simp, .group ho hbody hu, hv⟩

end Overlay.Text
