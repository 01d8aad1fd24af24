import Overlay.Proofs.Outcome
import Overlay.Text.Bracket

/-!
Literals in a text, as a grammar. A text with closed literals is a sequence of
characters other than quotes and of literals, and the scan for quotes succeeds
exactly on these texts, with the sequence as its result.
-/

namespace Overlay

/-- The literals or groups among some stretches. -/
def Stretch.insides (ss : List Stretch) : List Text :=
  ss.filterMap fun
    | .inside t => some t
    | .outside _ => none

/-- What stands outside among some stretches. -/
def Stretch.outsides (ss : List Stretch) : List Text :=
  ss.filterMap fun
    | .inside _ => none
    | .outside t => some t

theorem Stretch.insides_append (ss ss' : List Stretch) :
    Stretch.insides (ss ++ ss') = Stretch.insides ss ++ Stretch.insides ss' :=
  List.filterMap_append

theorem Stretch.outsides_append (ss ss' : List Stretch) :
    Stretch.outsides (ss ++ ss') = Stretch.outsides ss ++ Stretch.outsides ss' :=
  List.filterMap_append

theorem Stretch.outsideUnlessEmpty_of_ne_nil {t : Text} (h : t ≠ []) (ss : List Stretch) :
    Stretch.outsideUnlessEmpty t ss = .outside t :: ss := by
  rw [Stretch.outsideUnlessEmpty, List.isEmpty_eq_false_iff.2 h]
  rfl

theorem Stretch.insides_outsideUnlessEmpty (t : Text) (ss : List Stretch) :
    Stretch.insides (Stretch.outsideUnlessEmpty t ss) = Stretch.insides ss := by
  cases t <;> rfl

theorem Stretch.outsides_outsideUnlessEmpty (t : Text) (ss : List Stretch) :
    Stretch.outsides (Stretch.outsideUnlessEmpty t ss) =
      [t].filter (!List.isEmpty ·) ++ Stretch.outsides ss := by
  cases t <;> rfl

namespace Text

/-- What may stand between two quotes: each quote in it comes after a
backslash, and at its end there is no backslash to take up the closing quote. -/
inductive IsBody : Text → Prop
  | nil : IsBody []
  | escaped {t : Text} : IsBody t → IsBody ('\\' :: '"' :: t)
  | char {c : Char} {t : Text} (hc : c ≠ '"')
      (hesc : c = '\\' → t ≠ [] ∧ t.head? ≠ some '"') : IsBody t → IsBody (c :: t)

def IsLiteral (t : Text) : Prop := ∃ body, IsBody body ∧ t = '"' :: body ++ ['"']

/-- A text with closed literals and the tokens of which it is made. -/
inductive Quoted : Text → List Token → Prop
  | nil : Quoted [] []
  | char {c : Char} {t : Text} {ts : List Token} (hc : c ≠ '"')
      (hesc : c = '\\' → t.head? ≠ some '"') : Quoted t ts → Quoted (c :: t) (.char c :: ts)
  | literal {l t : Text} {ts : List Token} : IsLiteral l → Quoted t ts →
      Quoted (l ++ t) (.literal l :: ts)

/-- The stretches of a sequence of tokens. `begun` is the outside stretch
under way, reversed. -/
def stretchesFrom (begun : Text) : List Token → List Stretch
  | [] => Stretch.outsideUnlessEmpty begun.reverse []
  | .char c :: ts => stretchesFrom (c :: begun) ts
  | .literal t :: ts =>
    Stretch.outsideUnlessEmpty begun.reverse (.inside t :: stretchesFrom [] ts)

theorem stretchesFrom_chars_append (begun u : Text) (ts : List Token) :
    stretchesFrom begun (u.map .char ++ ts) = stretchesFrom (u.reverse ++ begun) ts := by
  induction u generalizing begun with
  | nil => rfl
  | cons c u ih =>
      rw [List.map_cons, List.cons_append, stretchesFrom, ih]
      simp

theorem tokens_outsideUnlessEmpty (t : Text) (ss : List Stretch) :
    tokens (Stretch.outsideUnlessEmpty t ss) = t.map .char ++ tokens ss := by
  cases t with
  | nil => rfl
  | cons c t => rfl

theorem tokens_stretchesFrom (begun : Text) (ts : List Token) :
    tokens (stretchesFrom begun ts) = begun.reverse.map .char ++ ts := by
  induction ts generalizing begun with
  | nil => exact tokens_outsideUnlessEmpty _ _
  | cons a ts ih =>
      cases a with
      | char c =>
          rw [stretchesFrom, ih]
          simp
      | literal t =>
          rw [stretchesFrom, tokens_outsideUnlessEmpty]
          have h := ih []
          simp only [tokens, List.flatMap_cons, List.reverse_nil, List.map_nil,
            List.nil_append] at h ⊢
          rw [h]
          rfl

theorem getLast?_cons_ne_some_iff {c d : Char} {t : Text} :
    (c :: t).getLast? ≠ some d ↔ t.getLast? ≠ some d ∧ (t = [] → c ≠ d) := by
  cases t <;> simp

/-- What a reader of texts knows when its row for an escaped quote does not match. -/
theorem head?_ne_quote {c : Char} {t : Text}
    (h : ∀ rest, c = '\\' → t = '"' :: rest → False) : c = '\\' → t.head? ≠ some '"' := by
  rintro rfl hhead
  obtain ⟨rest, rfl⟩ := List.head?_eq_some_iff.1 hhead
  exact h rest rfl rfl

theorem quotesFrom_char {inside : Bool} {begun rest : Text} {c : Char} (hc : c ≠ '"')
    (hesc : c = '\\' → rest.head? ≠ some '"') :
    quotesFrom inside begun (c :: rest) = quotesFrom inside (c :: begun) rest := by
  rw [quotesFrom, if_neg hc]
  rintro r rfl rfl
  exact hesc rfl rfl

/-- The scan inside a literal goes on to the quote that closes it. -/
theorem quotesFrom_body {body : Text} (h : IsBody body) (begun rest : Text) :
    quotesFrom true begun (body ++ '"' :: rest) =
      (quotesFrom false [] rest).map (.inside (begun.reverse ++ body ++ ['"']) :: ·) := by
  induction h generalizing begun with
  | nil => simp [quotesFrom]
  | escaped _ ih =>
      rw [List.cons_append, List.cons_append, quotesFrom, if_pos rfl, ih]
      simp
  | char hc hesc _ ih =>
      rw [List.cons_append, quotesFrom_char hc, ih]
      · simp
      · intro heq
        obtain ⟨hne, hhead⟩ := hesc heq
        rwa [List.head?_append_of_ne_nil _ hne]

theorem quotesFrom_of_quoted {t : Text} {ts : List Token} (h : Quoted t ts) (begun : Text) :
    quotesFrom false begun t = .ok (stretchesFrom begun ts) := by
  induction h generalizing begun with
  | nil => rfl
  | char hc hesc _ ih => rw [quotesFrom_char hc hesc, ih, stretchesFrom]
  | literal hl _ ih =>
      obtain ⟨body, hbody, rfl⟩ := hl
      rw [List.append_assoc, List.cons_append, List.singleton_append, quotesFrom, if_pos rfl,
        if_neg (by decide), quotesFrom_body hbody, ih]
      · rfl
      · exact fun _ h _ => absurd h (by decide)

/-- What a successful scan has found, outside and inside of literals. -/
theorem quoted_of_quotesFrom {inside : Bool} {begun t : Text} {ss : List Stretch}
    (h : quotesFrom inside begun t = .ok ss) :
    (inside = false → ∃ ts, Quoted t ts ∧ ss = stretchesFrom begun ts) ∧
      (inside = true → ∃ body rest ts, t = body ++ '"' :: rest ∧ IsBody body ∧ Quoted rest ts ∧
        ss = .inside (begun.reverse ++ body ++ ['"']) :: stretchesFrom [] ts) := by
  fun_induction quotesFrom inside begun t generalizing ss with
  | case1 => cases h
  | case2 inside begun hin =>
      cases h
      exact ⟨fun _ => ⟨[], .nil, rfl⟩, fun h => absurd h hin⟩
  | case3 begun rest ih =>
      refine ⟨fun h => Bool.noConfusion h, fun _ => ?_⟩
      obtain ⟨body, rest', ts, rfl, hbody, hts, rfl⟩ := (ih h).2 rfl
      exact ⟨_, rest', ts, rfl, .escaped hbody, hts, by simp⟩
  | case4 => cases h
  | case5 begun rest hne ih =>
      refine ⟨fun h => Bool.noConfusion h, fun _ => ?_⟩
      obtain ⟨ss', hss, rfl⟩ := Except.map_eq_ok_iff.1 h
      obtain ⟨ts, hts, rfl⟩ := (ih hss).1 rfl
      exact ⟨[], rest, ts, rfl, .nil, hts, by simp⟩
  | case6 inside begun rest hin hne ih =>
      refine ⟨fun _ => ?_, fun h => absurd h hin⟩
      obtain ⟨ss', hss, rfl⟩ := Except.map_eq_ok_iff.1 h
      obtain ⟨body, rest', ts, rfl, hbody, hts, rfl⟩ := (ih hss).2 rfl
      refine ⟨.literal ('"' :: body ++ ['"']) :: ts, ?_, rfl⟩
      have hq := Quoted.literal ⟨body, hbody, rfl⟩ hts
      simpa using hq
  | case7 inside begun c rest hne hc ih =>
      have hesc := head?_ne_quote hne
      obtain ⟨houtside, hinside⟩ := ih h
      constructor
      · intro hin
        obtain ⟨ts, hts, rfl⟩ := houtside hin
        exact ⟨_, .char hc hesc hts, rfl⟩
      · intro hin
        obtain ⟨body, rest', ts, rfl, hbody, hts, rfl⟩ := hinside hin
        refine ⟨c :: body, rest', ts, rfl, .char hc (fun heq => ?_) hbody, hts, by simp⟩
        have hhead := hesc heq
        cases body with
        | nil => exact absurd rfl hhead
        | cons d body => exact ⟨List.cons_ne_nil _ _, hhead⟩

theorem quotes_eq_ok_iff {t : Text} {ss : List Stretch} :
    t.quotes = .ok ss ↔ ∃ ts, Quoted t ts ∧ ss = stretchesFrom [] ts := by
  constructor
  · intro h
    exact (quoted_of_quotesFrom h).1 rfl
  · rintro ⟨ts, hts, rfl⟩
    exact quotesFrom_of_quoted hts []

theorem Quoted.flatten {t : Text} {ts : List Token} (h : Quoted t ts) : Token.flatten ts = t := by
  induction h with
  | nil => rfl
  | char _ _ _ ih => simpa [Token.flatten, Token.text] using ih
  | literal _ _ ih => simpa [Token.flatten, Token.text] using ih

/-- Texts with closed literals can be put together, unless a backslash would
come to stand before a quote. -/
theorem Quoted.append {s t : Text} {ss ts : List Token} (hs : Quoted s ss) (ht : Quoted t ts)
    (hseam : s.getLast? = some '\\' → t.head? ≠ some '"') : Quoted (s ++ t) (ss ++ ts) := by
  induction hs with
  | nil => exact ht
  | @char c s ss hc hesc _ ih =>
      refine .char hc (fun heq => ?_) (ih fun hlast => hseam ?_)
      · cases s with
        | nil => exact hseam (by simp [heq])
        | cons d s => exact hesc heq
      · rw [List.getLast?_cons, hlast]
        rfl
  | @literal l s ss hl _ ih =>
      rw [List.append_assoc]
      refine .literal hl (ih fun hlast => hseam ?_)
      rw [List.getLast?_append, hlast]
      rfl

theorem Quoted.append_of_head {s t : Text} {ss ts : List Token} (hs : Quoted s ss)
    (ht : Quoted t ts) (hhead : t.head? ≠ some '"') : Quoted (s ++ t) (ss ++ ts) :=
  hs.append ht fun _ => hhead

/-- A text that was put together from tokens can be taken apart between any
two of them. -/
theorem Quoted.split {t : Text} {ss ts : List Token} (h : Quoted t (ss ++ ts)) :
    ∃ a b, t = a ++ b ∧ Quoted a ss ∧ Quoted b ts := by
  induction ss generalizing t with
  | nil => exact ⟨[], t, rfl, .nil, h⟩
  | cons x ss ih =>
      cases h with
      | @char c t _ hc hesc h =>
          obtain ⟨a, b, rfl, ha, hb⟩ := ih h
          refine ⟨c :: a, b, rfl, .char hc (fun heq hhead => hesc heq ?_) ha, hb⟩
          rw [List.head?_append, hhead]
          rfl
      | @literal l t _ hl h =>
          obtain ⟨a, b, rfl, ha, hb⟩ := ih h
          exact ⟨l ++ a, b, (List.append_assoc l a b).symm, .literal hl ha, hb⟩

theorem Quoted.unique {t : Text} {ts us : List Token} (h : Quoted t ts) (h' : Quoted t us) :
    ts = us := by
  have hs := quotes_eq_ok_iff.2 ⟨ts, h, rfl⟩
  rw [quotes_eq_ok_iff.2 ⟨us, h', rfl⟩] at hs
  have htokens := congrArg tokens (Except.ok.inj hs)
  simpa [tokens_stretchesFrom] using htokens.symm

theorem Quoted.of_literal_append {l t : Text} {ts : List Token} (hl : IsLiteral l)
    (h : Quoted (l ++ t) ts) : ∃ us, ts = .literal l :: us ∧ Quoted t us := by
  have hscan := quotesFrom_of_quoted h []
  obtain ⟨body, hbody, rfl⟩ := hl
  rw [List.append_assoc, List.cons_append, List.singleton_append, quotesFrom, if_pos rfl,
    if_neg (by decide), quotesFrom_body hbody] at hscan
  · obtain ⟨_, hrest, -⟩ := Except.map_eq_ok_iff.1 hscan
    obtain ⟨ss, hss, -⟩ := Except.map_eq_ok_iff.1 hrest
    obtain ⟨us, hus, -⟩ := (quoted_of_quotesFrom hss).1 rfl
    exact ⟨us, h.unique (.literal ⟨body, hbody, rfl⟩ hus), hus⟩
  · exact fun _ h _ => absurd h (by decide)

theorem head_of_isLiteral {l : Text} (h : IsLiteral l) : ∃ rest, l = '"' :: rest := by
  obtain ⟨body, -, rfl⟩ := h
  exact ⟨body ++ ['"'], rfl⟩

theorem Quoted.of_cons {c : Char} {t : Text} {ts : List Token} (hc : c ≠ '"')
    (h : Quoted (c :: t) ts) : ∃ us, (c = '\\' → t.head? ≠ some '"') ∧ Quoted t us := by
  generalize hu : c :: t = u at h
  cases h with
  | nil => cases hu
  | char _ hesc h =>
      obtain ⟨rfl, rfl⟩ := List.cons.inj hu
      exact ⟨_, hesc, h⟩
  | literal hl _ =>
      obtain ⟨rest, rfl⟩ := head_of_isLiteral hl
      exact absurd (List.cons.inj hu).1 hc

/-- What follows a text with closed literals is read as it is read alone. -/
theorem Quoted.of_append {s t : Text} {ss ts : List Token} (hs : Quoted s ss)
    (h : Quoted (s ++ t) ts) : ∃ us, ts = ss ++ us ∧ Quoted t us := by
  induction hs generalizing ts with
  | nil => exact ⟨ts, rfl, h⟩
  | @char c s ss hc _ _ ih =>
      generalize hu : c :: s ++ t = u at h
      cases h with
      | nil => cases hu
      | char _ _ h =>
          obtain ⟨rfl, rfl⟩ := List.cons.inj hu
          obtain ⟨us, rfl, hus⟩ := ih h
          exact ⟨us, rfl, hus⟩
      | literal hl _ =>
          obtain ⟨rest, rfl⟩ := head_of_isLiteral hl
          exact absurd (List.cons.inj hu).1 hc
  | @literal l s ss hl _ ih =>
      rw [List.append_assoc] at h
      obtain ⟨vs, rfl, hvs⟩ := h.of_literal_append hl
      obtain ⟨us, rfl, hus⟩ := ih hvs
      exact ⟨us, rfl, hus⟩

end Text

end Overlay
