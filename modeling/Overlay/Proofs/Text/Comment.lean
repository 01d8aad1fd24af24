import Overlay.Proofs.Text.Blank
import Overlay.Proofs.Text.Quote

/-!
Comments and literals. A line has two readings of where its comment begins: that of
the scan for comments, which pairs off backslashes inside a literal, and that of the
scan for quotes, which looks at the one character before a quote only. The readings
are the same on a line without a quote behind two backslashes; on other lines the
comment scan may take a sign inside a literal for a comment, or keep one outside.
-/

namespace Overlay.Text

/-- The rest of a line up to the first number sign that the scan for quotes meets
outside of literals; all of it when the scan meets none or fails before. -/
def beforeSignFrom (inside : Bool) : Text → Text
  | [] => []
  | '\\' :: '"' :: rest =>
    if inside then '\\' :: '"' :: beforeSignFrom true rest else '\\' :: '"' :: rest
  | c :: rest =>
    if c = '"' then c :: beforeSignFrom (!inside) rest
    else if c = '#' ∧ !inside then []
    else c :: beforeSignFrom inside rest

def beforeSign (line : Text) : Text := beforeSignFrom false line

/-- A line without its comment and without blanks around it, where the comment is
found by the scan for quotes. -/
def stripAtSign (line : Text) : Except Fault Text := do
  let kept := beforeSign line
  let _ ← quotes kept
  .ok kept.trim

/-- Whether a sign inside a literal is taken for the comment, and what should have
been kept does not end in an open literal as well. -/
def CutsLiteral (line : Text) : Prop :=
  ∃ rest, line.beforeSign = line.beforeComment ++ '#' :: rest ∧
    line.beforeComment.quotes = .error .unterminatedQuote ∧
    line.beforeSign.quotes ≠ .error .unterminatedQuote

/-- Whether a sign outside of literals is kept. -/
def KeepsSign (line : Text) : Prop :=
  ∃ rest, line.beforeComment = line.beforeSign ++ '#' :: rest

/-- Whether a quote comes right after two backslashes. -/
def HasQuoteAfterPair (line : Text) : Prop := ['\\', '\\', '"'] <:+: line

/-- Whether a text is what comes before a sign, or all there is. -/
def CutAtSign (kept t : Text) : Prop := ∃ rest, t = kept ++ rest ∧ ∀ c ∈ rest.head?, c = '#'

namespace CutAtSign

theorem all (t : Text) : CutAtSign t t := ⟨[], (List.append_nil t).symm, nofun⟩

theorem sign (rest : Text) : CutAtSign [] ('#' :: rest) := ⟨'#' :: rest, rfl, by simp⟩

theorem cons (c : Char) {kept t : Text} (h : CutAtSign kept t) :
    CutAtSign (c :: kept) (c :: t) := by
  obtain ⟨rest, rfl, hrest⟩ := h
  exact ⟨rest, rfl, hrest⟩

theorem isPrefix {kept t : Text} (h : CutAtSign kept t) : kept <+: t := by
  obtain ⟨rest, rfl, -⟩ := h
  exact List.prefix_append kept rest

theorem eq_or_sign {kept t : Text} (h : CutAtSign kept t) {more : Text} (hmore : more <+: t)
    (hle : kept <+: more) : kept = more ∨ ∃ rest, more = kept ++ '#' :: rest := by
  obtain ⟨rest, rfl, hrest⟩ := h
  obtain ⟨u, rfl⟩ := hle
  cases u with
  | nil => exact .inl (List.append_nil kept).symm
  | cons c u =>
      obtain ⟨v, hv⟩ := (List.prefix_append_right_inj kept).1 hmore
      obtain rfl := hrest c (by rw [← hv]; rfl)
      exact .inr ⟨u, rfl⟩

/-- Two cuts of a text are the same, or one of them ends at a sign in the other. -/
theorem cases {s t line : Text} (hs : CutAtSign s line) (ht : CutAtSign t line) :
    s = t ∨ (∃ rest, t = s ++ '#' :: rest) ∨ ∃ rest, s = t ++ '#' :: rest := by
  rcases List.prefix_or_prefix_of_prefix hs.isPrefix ht.isPrefix with hle | hle
  · exact (hs.eq_or_sign ht.isPrefix hle).imp_right .inl
  · exact (ht.eq_or_sign hs.isPrefix hle).imp Eq.symm .inr

end CutAtSign

theorem cutAtSign_beforeCommentFrom (inside escaped : Bool) (t : Text) :
    CutAtSign (beforeCommentFrom inside escaped t) t := by
  fun_induction beforeCommentFrom inside escaped t with
  | case1 => exact .all []
  | case2 inside escaped c rest _ ih => exact ih.cons c
  | case3 inside escaped c rest _ _ ih => exact ih.cons c
  | case4 inside escaped c rest _ _ hsign =>
      obtain ⟨rfl, -⟩ := hsign
      exact .sign rest
  | case5 inside escaped c rest _ _ _ ih => exact ih.cons c

theorem cutAtSign_beforeSignFrom (inside : Bool) (t : Text) :
    CutAtSign (beforeSignFrom inside t) t := by
  fun_induction beforeSignFrom inside t with
  | case1 => exact .all []
  | case2 rest ih => exact (ih.cons '"').cons '\\'
  | case3 inside rest _ => exact .all _
  | case4 inside rest _ ih => exact ih.cons '"'
  | case5 inside c rest _ _ hsign =>
      obtain ⟨rfl, -⟩ := hsign
      exact .sign rest
  | case6 inside c rest _ _ _ ih => exact ih.cons c

/-- The fault that the scan for quotes ends with. -/
def quoteFault? (inside : Bool) : Text → Option Fault
  | [] => if inside then some .unterminatedQuote else none
  | '\\' :: '"' :: rest =>
    if inside then quoteFault? true rest else some .escapedQuoteOutsideString
  | c :: rest => quoteFault? (if c = '"' then !inside else inside) rest

theorem quotesFrom_eq_error_iff {inside : Bool} {begun t : Text} {e : Fault} :
    quotesFrom inside begun t = .error e ↔ quoteFault? inside t = some e := by
  fun_induction quotesFrom inside begun t with
  | case1 => simp [quoteFault?]
  | case2 inside begun hin => simp [quoteFault?, hin]
  | case3 begun t ih => rw [ih, quoteFault?, if_pos rfl]
  | case4 inside begun t hin => simp [quoteFault?, hin]
  | case5 begun t hne ih =>
      rw [Except.map_eq_error_iff, ih, quoteFault?, if_pos rfl, Bool.not_true]
      exact hne
  | case6 inside begun t hin hne ih =>
      rw [Except.map_eq_error_iff, ih, quoteFault?, if_pos rfl, Bool.eq_false_iff.2 hin,
        Bool.not_false]
      exact hne
  | case7 inside begun c t hne hc ih =>
      rw [ih, quoteFault?, if_neg hc]
      exact hne

theorem quotes_eq_error_iff {t : Text} {e : Fault} :
    t.quotes = .error e ↔ quoteFault? false t = some e := quotesFrom_eq_error_iff

theorem exists_quotes_iff {t : Text} : (∃ ss, t.quotes = .ok ss) ↔ quoteFault? false t = none := by
  rw [Option.eq_none_iff_forall_ne_some]
  simp only [ne_eq, ← quotes_eq_error_iff]
  cases t.quotes <;> simp

theorem quoteFault?_cons (inside : Bool) {c : Char} {t : Text}
    (hesc : c = '\\' → t.head? ≠ some '"') :
    quoteFault? inside (c :: t) = quoteFault? (if c = '"' then !inside else inside) t := by
  rw [quoteFault?]
  rintro r rfl rfl
  exact hesc rfl rfl

theorem quoteFault?_cases {inside : Bool} {t : Text} {e : Fault}
    (h : quoteFault? inside t = some e) :
    e = .unterminatedQuote ∨ e = .escapedQuoteOutsideString := by
  fun_induction quoteFault? inside t with
  | case1 => exact .inl (Option.some.inj h).symm
  | case2 => cases h
  | case3 t ih => exact ih h
  | case4 => exact .inr (Option.some.inj h).symm
  | case5 inside c t _ ih => exact ih h

/-- A scan that has met an escaped quote outside of literals does not go on. -/
theorem quoteFault?_append {inside : Bool} {t : Text}
    (h : quoteFault? inside t = some .escapedQuoteOutsideString) (rest : Text) :
    quoteFault? inside (t ++ rest) = some .escapedQuoteOutsideString := by
  fun_induction quoteFault? inside t with
  | case1 => cases h
  | case2 => cases h
  | case3 t ih => simpa [quoteFault?] using ih h
  | case4 inside t hin => simp [quoteFault?, hin]
  | case5 inside c t hne ih =>
      rw [List.cons_append, quoteFault?_cons]
      · exact ih h
      · rintro rfl
        cases t with
        | nil => cases inside <;> cases h
        | cons d t =>
            rintro hd
            exact hne t rfl (congrArg (· :: t) (Option.some.inj hd))

/-- A character that does not begin an escaped quote. -/
theorem beforeSignFrom_cons (inside : Bool) {c : Char} {t : Text}
    (hesc : c = '\\' → t.head? ≠ some '"') :
    beforeSignFrom inside (c :: t) = if c = '#' ∧ inside = false then []
      else c :: beforeSignFrom (if c = '"' then !inside else inside) t := by
  rw [beforeSignFrom]
  · by_cases hc : c = '"'
    · simp [hc]
    · simp [hc]
  · rintro r rfl rfl
    exact hesc rfl rfl

/-- A sign at which no literal is open ends what is kept, unless another one did so
before. -/
theorem beforeSignFrom_isPrefix {inside : Bool} {front : Text}
    (h : quoteFault? inside front = none) (rest : Text) :
    beforeSignFrom inside (front ++ '#' :: rest) <+: front := by
  fun_induction quoteFault? inside front with
  | case1 => cases h
  | case2 inside hin =>
      have hcut : beforeSignFrom inside ('#' :: rest) = [] := by
        rw [beforeSignFrom_cons inside (fun h => absurd h (by decide)),
          if_pos ⟨rfl, Bool.eq_false_iff.2 hin⟩]
      exact hcut.symm ▸ List.nil_prefix
  | case3 t ih =>
      rw [List.cons_append, List.cons_append, beforeSignFrom, if_pos rfl, List.cons_prefix_cons,
        List.cons_prefix_cons]
      exact ⟨rfl, rfl, ih h⟩
  | case4 inside t hin => cases h
  | case5 inside c t hne ih =>
      rw [List.cons_append, beforeSignFrom_cons]
      · split
        · exact List.nil_prefix
        · exact List.cons_prefix_cons.2 ⟨rfl, ih h⟩
      · rintro rfl hhead
        cases t with
        | nil => cases hhead
        | cons d t => exact hne t rfl (congrArg (· :: t) (Option.some.inj hhead))

/-- What is kept has all its literals closed, when it is not the whole text. -/
theorem beforeSignFrom_eq_or_quoteFault? (inside : Bool) (t : Text) :
    beforeSignFrom inside t = t ∨ quoteFault? inside (beforeSignFrom inside t) = none := by
  fun_induction beforeSignFrom inside t with
  | case1 => exact .inl rfl
  | case2 rest ih =>
      refine ih.imp (fun h => by rw [h]) fun h => ?_
      rwa [quoteFault?, if_pos rfl]
  | case3 inside rest _ => exact .inl rfl
  | case4 inside rest hne ih =>
      refine ih.imp (fun h => by rw [h]) fun h => ?_
      rwa [quoteFault?_cons inside (fun h => absurd h (by decide)), if_pos rfl]
  | case5 inside c rest _ _ hsign => simp_all [quoteFault?]
  | case6 inside c rest hne hc _ ih =>
      refine ih.imp (fun h => by rw [h]) fun h => ?_
      rw [quoteFault?_cons, if_neg hc]
      · exact h
      · rintro rfl hhead
        have hpre := (cutAtSign_beforeSignFrom inside rest).isPrefix
        obtain ⟨r, hr⟩ := List.head?_eq_some_iff.1 hhead
        rw [hr] at hpre
        obtain ⟨u, rfl⟩ := hpre
        exact hne _ rfl rfl

/-- The kept text is cut off at the first sign before which all literals are closed. -/
theorem beforeSign_spec (line : Text) : CutAtSign line.beforeSign line ∧
    (line.beforeSign ≠ line → ∃ ss, line.beforeSign.quotes = .ok ss) ∧
    ∀ front rest ss, line = front ++ '#' :: rest → front.quotes = .ok ss →
      line.beforeSign <+: front := by
  refine ⟨cutAtSign_beforeSignFrom false line, fun hne => ?_, ?_⟩
  · exact exists_quotes_iff.2 ((beforeSignFrom_eq_or_quoteFault? false line).resolve_left hne)
  · rintro front rest ss rfl hss
    exact beforeSignFrom_isPrefix (exists_quotes_iff.1 ⟨ss, hss⟩) rest

theorem HasQuoteAfterPair.cons (c : Char) {t : Text} (h : HasQuoteAfterPair t) :
    HasQuoteAfterPair (c :: t) := h.trans (List.suffix_cons c t).isInfix

/-- The two readings of a line, from a place in it at which both scans are on the same
side of a literal and `escaped` tells whether an odd run of backslashes ends there. -/
theorem beforeCommentFrom_eq_or {inside escaped : Bool} {t : Text}
    (hpair : ¬ HasQuoteAfterPair t)
    (hesc : escaped = true → inside = true ∧ t.head? ≠ some '"' ∧ ¬ ['\\', '"'] <+: t) :
    beforeCommentFrom inside escaped t = beforeSignFrom inside t ∨
      quoteFault? inside (beforeCommentFrom inside escaped t) = some .escapedQuoteOutsideString ∧
      quoteFault? inside (beforeSignFrom inside t) = some .escapedQuoteOutsideString := by
  fun_induction beforeSignFrom inside t generalizing escaped with
  | case1 => exact .inl rfl
  | case2 rest ih =>
      obtain rfl : escaped = false :=
        Bool.eq_false_iff.2 fun h => (hesc h).2.2 (List.prefix_append ['\\', '"'] rest)
      have hkept : beforeCommentFrom true false ('\\' :: '"' :: rest) =
          '\\' :: '"' :: beforeCommentFrom true false rest := by simp [beforeCommentFrom]
      rw [hkept, quoteFault?, if_pos rfl, quoteFault?, if_pos rfl]
      have hrest : ¬ HasQuoteAfterPair rest := fun h => hpair ((h.cons '"').cons '\\')
      exact (ih hrest fun h => absurd h Bool.false_ne_true).imp_left fun h => by rw [h]
  | case3 inside rest hin =>
      -- Here the scans may go on apart, but what they keep has the same fault either way.
      obtain rfl : escaped = false := Bool.eq_false_iff.2 fun h => hin (hesc h).1
      obtain rfl : inside = false := Bool.eq_false_iff.2 hin
      exact .inr ⟨by simp [beforeCommentFrom, quoteFault?], by simp [quoteFault?]⟩
  | case4 inside rest hne ih =>
      obtain rfl : escaped = false := Bool.eq_false_iff.2 fun h => (hesc h).2.1 rfl
      have hkept : beforeCommentFrom inside false ('"' :: rest) =
          '"' :: beforeCommentFrom (!inside) false rest := by simp [beforeCommentFrom]
      rw [hkept, quoteFault?_cons _ (fun h => absurd h (by decide)),
        quoteFault?_cons _ (fun h => absurd h (by decide)), if_pos rfl]
      have hrest : ¬ HasQuoteAfterPair rest := fun h => hpair (h.cons '"')
      exact (ih hrest fun h => absurd h Bool.false_ne_true).imp_left fun h => by rw [h]
  | case5 inside c rest hne hquote hsign =>
      obtain ⟨rfl, hin⟩ := hsign
      exact .inl (by simp_all [beforeCommentFrom])
  | case6 inside c rest hne hquote hsign ih =>
      have hhead := head?_ne_quote hne
      -- Only a backslash inside of a literal changes what is escaped, and no quote comes after it,
      -- so the scans meet again.
      obtain ⟨now, hkept, hnow⟩ : ∃ now, beforeCommentFrom inside escaped (c :: rest) =
          c :: beforeCommentFrom inside now rest ∧
          (now = true → inside = true ∧ rest.head? ≠ some '"' ∧ ¬ ['\\', '"'] <+: rest) := by
        by_cases hslash : c = '\\' ∧ inside = true
        · refine ⟨!escaped, by rw [beforeCommentFrom, if_pos hslash], fun _ => ?_⟩
          refine ⟨hslash.2, hhead hslash.1, fun h => hpair ?_⟩
          rw [hslash.1]
          exact (List.cons_prefix_cons.2 ⟨rfl, h⟩).isInfix
        · refine ⟨false, ?_, fun h => absurd h Bool.false_ne_true⟩
          rw [beforeCommentFrom, if_neg hslash, if_neg (fun h => hquote h.1), if_neg hsign]
      have hsides {kept : Text} (h : kept <+: rest) :
          quoteFault? inside (c :: kept) = quoteFault? inside kept := by
        rw [quoteFault?_cons, if_neg hquote]
        intro hc hquoted
        obtain ⟨r, rfl⟩ := h
        exact hhead hc (by rw [List.head?_append, hquoted]; rfl)
      rw [hkept, hsides (cutAtSign_beforeCommentFrom inside now rest).isPrefix,
        hsides (cutAtSign_beforeSignFrom inside rest).isPrefix]
      exact (ih (fun h => hpair (h.cons c)) hnow).imp_left fun h => by rw [h]

/-- Trimming takes away blanks only. -/
theorem filter_trim (t : Text) :
    t.trim.filter (fun c => !isBlank c) = t.filter (fun c => !isBlank c) := by
  obtain ⟨b, b', hb, hb', ht, -, -⟩ := exists_trim t
  have hnone {s : Text} (hs : s.allBlank = true) : s.filter (fun c => !isBlank c) = [] :=
    List.filter_eq_nil_iff.2 fun c hc => by simp [allBlank_iff.1 hs c hc]
  have h := congrArg (List.filter fun c => !isBlank c) ht
  simpa [hnone hb, hnone hb'] using h.symm

theorem trim_ne_of_sign (t rest : Text) : (t ++ '#' :: rest).trim ≠ t.trim := by
  intro h
  have hsolid := congrArg (fun u => (u.filter fun c => !isBlank c).length) h
  have hsign : isBlank '#' = false := by decide
  simp [filter_trim, hsign] at hsolid

theorem quotes_bind (t : Text) (answer : Text) : (do let _ ← quotes t; .ok answer) =
    match quoteFault? false t with
    | none => .ok answer
    | some e => .error e := by
  cases h : quoteFault? false t with
  | none =>
      obtain ⟨ss, hss⟩ := exists_quotes_iff.2 h
      rw [hss]
      rfl
  | some e =>
      rw [quotes_eq_error_iff.2 h]
      rfl

theorem stripComment_eq (line : Text) : stripComment line =
    match quoteFault? false line.beforeComment with
    | none => .ok line.beforeComment.trim
    | some e => .error e := quotes_bind _ _

theorem stripAtSign_eq (line : Text) : stripAtSign line =
    match quoteFault? false line.beforeSign with
    | none => .ok line.beforeSign.trim
    | some e => .error e := quotes_bind _ _

theorem stripComment_eq_of_not_hasQuoteAfterPair {line : Text} (h : ¬ HasQuoteAfterPair line) :
    stripComment line = stripAtSign line := by
  rw [stripComment_eq, stripAtSign_eq]
  rcases @beforeCommentFrom_eq_or false false line h nofun with hkept | ⟨hcomment, hsign⟩
  · rw [beforeComment, hkept]
    rfl
  · rw [beforeComment, beforeSign, hcomment, hsign]

theorem ne_append_sign (t rest : Text) : t ≠ t ++ '#' :: rest := by
  intro h
  simp at h

/-- A comment found too early: the scan for quotes does not stop there, as a literal is
open or the scan has failed. -/
theorem stripComment_eq_iff_of_longer {line rest : Text}
    (h : line.beforeSign = line.beforeComment ++ '#' :: rest) :
    stripComment line = stripAtSign line ↔ ¬ CutsLiteral line := by
  rw [stripComment_eq, stripAtSign_eq]
  cases hkept : quoteFault? false line.beforeComment with
  | none =>
      obtain ⟨ss, hss⟩ := exists_quotes_iff.2 hkept
      obtain ⟨⟨after, hafter, -⟩, -, hfirst⟩ := beforeSign_spec line
      have hline : line = line.beforeComment ++ '#' :: (rest ++ after) :=
        calc line = line.beforeSign ++ after := hafter
          _ = line.beforeComment ++ '#' :: (rest ++ after) := by simp [h]
      have hlen := (hfirst _ _ ss hline hss).length_le
      rw [h, List.length_append, List.length_cons] at hlen
      omega
  | some e =>
      rcases quoteFault?_cases hkept with rfl | rfl
      case inl =>
        have hcuts : CutsLiteral line ↔ quoteFault? false line.beforeSign ≠
            some .unterminatedQuote := by
          simp only [CutsLiteral, quotes_eq_error_iff, ne_eq]
          exact ⟨fun ⟨_, _, _, hne⟩ => hne, fun hne => ⟨rest, h, hkept, hne⟩⟩
        rw [hcuts, not_not]
        cases quoteFault? false line.beforeSign <;> simp [eq_comm]
      case inr =>
        have hsign := quoteFault?_append hkept ('#' :: rest)
        rw [← h] at hsign
        rw [hsign]
        refine iff_of_true rfl fun ⟨_, _, hfault, _⟩ => ?_
        rw [quotes_eq_error_iff, hkept] at hfault
        cases hfault

/-- A comment found too late: what the scan for quotes keeps has closed literals, and
is shorter. -/
theorem stripComment_ne_of_keepsSign {line : Text} (h : KeepsSign line) :
    stripComment line ≠ stripAtSign line := by
  obtain ⟨rest, hrest⟩ := h
  have hshorter : line.beforeSign ≠ line := by
    intro hall
    have hle := (cutAtSign_beforeCommentFrom false false line).isPrefix.length_le
    change line.beforeComment.length ≤ _ at hle
    rw [hrest, hall, List.length_append, List.length_cons] at hle
    omega
  have hclosed := exists_quotes_iff.1 ((beforeSign_spec line).2.1 hshorter)
  rw [stripComment_eq, stripAtSign_eq, hclosed]
  cases quoteFault? false line.beforeComment with
  | some e => nofun
  | none =>
      intro heq
      rw [hrest] at heq
      exact trim_ne_of_sign _ _ (Except.ok.inj heq)

/-- The comment begins where the scan for quotes meets a sign outside of literals, and
what stands before is the line, unless the scan for comments takes a sign inside a
literal for one outside or the other way round. It does neither on a line without a
quote behind two backslashes. -/
theorem stripComment_eq_stripAtSign_iff (line : Text) :
    (stripComment line = stripAtSign line ↔ ¬ (CutsLiteral line ∨ KeepsSign line)) ∧
      (¬ HasQuoteAfterPair line → stripComment line = stripAtSign line) := by
  refine ⟨?_, stripComment_eq_of_not_hasQuoteAfterPair⟩
  have hcomment : CutAtSign line.beforeComment line := cutAtSign_beforeCommentFrom false false line
  have hsign : CutAtSign line.beforeSign line := cutAtSign_beforeSignFrom false line
  rcases hcomment.cases hsign with heq | ⟨rest, hrest⟩ | hkeeps
  case inl =>
    rw [stripComment_eq, stripAtSign_eq, heq]
    refine iff_of_true rfl ?_
    rintro (⟨rest, h, -⟩ | ⟨rest, h⟩)
    · exact ne_append_sign _ _ (heq.trans h)
    · exact ne_append_sign _ _ (heq.symm.trans h)
  case inr.inl =>
    rw [stripComment_eq_iff_of_longer hrest, not_or]
    refine (and_iff_left ?_).symm
    rintro ⟨rest', h⟩
    have hlen := congrArg List.length (h.trans (congrArg (· ++ '#' :: rest') hrest))
    simp at hlen
  case inr.inr =>
    exact iff_of_false (stripComment_ne_of_keepsSign hkeeps) fun h => h (.inr hkeeps)

theorem stripComment_eq_with_escaped_quote :
    ¬ HasQuoteAfterPair ['"', '\\', '"', '#', '"', '#'] ∧
      stripComment ['"', '\\', '"', '#', '"', '#'] =
        stripAtSign ['"', '\\', '"', '#', '"', '#'] := by
  have h : ¬ HasQuoteAfterPair ['"', '\\', '"', '#', '"', '#'] := by
    simp [HasQuoteAfterPair, List.infix_cons_iff]
  exact ⟨h, (stripComment_eq_stripAtSign_iff _).2 h⟩

/-- The quote behind the two backslashes is escaped for the scan for quotes and closes
the literal for the scan for comments, which then stops inside the literal. -/
theorem stripComment_stops_in_literal :
    stripComment "\"a\\\\\" # \"".toList = .error .unterminatedQuote ∧
      stripAtSign "\"a\\\\\" # \"".toList = .ok "\"a\\\\\" # \"".toList := by
  decide

end Overlay.Text
