import Overlay.Proofs.Text.Comment
import Mathlib.Algebra.Ring.Parity
import Mathlib.Data.List.GetD

/-!
Quotes by their places. A quote is escaped when a backslash stands just before it, and
bare otherwise, whatever comes before the backslash. The bare quotes alone say where the
literals of a text are: they pair off from the left, and each pair is a literal. That the
scan for quotes finds the same literals rests on how the places of a text arise from
those of two parts of it, between which no backslash meets a quote.
-/

namespace Overlay

namespace Text

/-- Whether a quote stands at a place, with a backslash just before it or without. -/
def isQuoteAt (escaped : Bool) (t : Text) (i : Nat) : Bool :=
  t[i]? == some '"' && (decide (0 < i) && t[i - 1]? == some '\\') == escaped

def quotePlaces (escaped : Bool) (t : Text) : List Nat :=
  (List.range t.length).filter (isQuoteAt escaped t)

/-- The places of the quotes with a backslash just before them. -/
def escapedQuotes (t : Text) : List Nat := quotePlaces true t

/-- The places of all other quotes. -/
def bareQuotes (t : Text) : List Nat := quotePlaces false t

/-- Whether a quote is escaped where an even number of bare quotes comes before it. -/
def EscapesOutside (t : Text) : Prop :=
  ∃ i ∈ t.escapedQuotes, Even (t.bareQuotes.countP (· < i))

instance (t : Text) : Decidable t.EscapesOutside :=
  inferInstanceAs (Decidable (∃ i ∈ t.escapedQuotes, Even (t.bareQuotes.countP (· < i))))

/-- The characters from one place up to another. -/
def between (t : Text) (start stop : Nat) : Text := (t.take stop).drop start

/-- The place of a bare quote, counted from zero; behind the last one, the end. -/
def bareQuote (t : Text) (k : Nat) : Nat := t.bareQuotes.getD k t.length

/-- The literal of a number, counted from zero, with its two quotes. -/
def literalAt (t : Text) (k : Nat) : Text :=
  t.between (t.bareQuote (2 * k)) (t.bareQuote (2 * k + 1) + 1)

/-- What stands before the literal of a number, from the end of the literal before it. -/
def gapAt (t : Text) : Nat → Text
  | 0 => t.between 0 (t.bareQuote 0)
  | k + 1 => t.between (t.bareQuote (2 * k + 1) + 1) (t.bareQuote (2 * k + 2))

/-- How many pairs the bare quotes make. -/
def literalCount (t : Text) : Nat := t.bareQuotes.length / 2

/-- The stretches of a text by the places of its bare quotes. -/
def stretchesByPlace (t : Text) : List Stretch :=
  ((List.range t.literalCount).flatMap fun k =>
    Stretch.outsideUnlessEmpty (t.gapAt k) [.inside (t.literalAt k)]) ++
  Stretch.outsideUnlessEmpty (t.gapAt t.literalCount) []

/-! Places in a text that is put together. -/

section

variable {u v : Text} (escaped : Bool)

theorem isQuoteAt_append_left {i : Nat} (h : i < u.length) :
    isQuoteAt escaped (u ++ v) i = isQuoteAt escaped u i := by
  have hprev : i - 1 < u.length := by omega
  simp only [isQuoteAt, List.getElem?_append_left h, List.getElem?_append_left hprev]

theorem isQuoteAt_append_right (hseam : u.getLast? = some '\\' → v.head? ≠ some '"') (i : Nat) :
    isQuoteAt escaped (u ++ v) (u.length + i) = isQuoteAt escaped v i := by
  cases i with
  | zero =>
      -- Only here does the part in front matter, by its last character.
      have hhere : (u ++ v)[u.length + 0]? = v.head? := by
        rw [Nat.add_zero, List.getElem?_append_right (Nat.le_refl _), Nat.sub_self,
          List.head?_eq_getElem?]
      by_cases hquote : v.head? = some '"'
      · have hlast : (u ++ v)[u.length + 0 - 1]? = some '\\' → ¬ 0 < u.length + 0 := by
          intro heq hpos
          rw [List.getElem?_append_left (by omega), Nat.add_zero,
            ← List.getLast?_eq_getElem?] at heq
          exact hseam heq hquote
        have hfree : (decide (0 < u.length + 0) && (u ++ v)[u.length + 0 - 1]? == some '\\') =
            false := by
          rw [Bool.and_eq_false_iff, decide_eq_false_iff_not, beq_eq_false_iff_ne]
          by_cases hpos : 0 < u.length + 0
          · exact .inr fun heq => hlast heq hpos
          · exact .inl hpos
        rw [isQuoteAt, isQuoteAt, hhere, hfree, List.head?_eq_getElem?]
        rfl
      · have hnot : (v.head? == some '"') = false := beq_eq_false_iff_ne.2 hquote
        rw [isQuoteAt, isQuoteAt, hhere, hnot, ← List.head?_eq_getElem?, hnot]
        rfl
  | succ i =>
      have hprev : u.length + (i + 1) - 1 = u.length + i := by omega
      have hpos : 0 < u.length + (i + 1) := by omega
      simp only [isQuoteAt, hprev, Nat.add_sub_cancel, hpos, Nat.succ_pos,
        List.getElem?_append_right (Nat.le_add_right _ _), Nat.add_sub_cancel_left]

theorem quotePlaces_append (hseam : u.getLast? = some '\\' → v.head? ≠ some '"') :
    quotePlaces escaped (u ++ v) =
      quotePlaces escaped u ++ (quotePlaces escaped v).map (u.length + ·) := by
  rw [quotePlaces, List.length_append, List.range_add, List.filter_append, List.filter_map]
  congr 1
  · exact List.filter_congr fun i hi => isQuoteAt_append_left escaped (List.mem_range.1 hi)
  · congr 1
    exact List.filter_congr fun i _ => isQuoteAt_append_right escaped hseam i

end

section

variable (escaped : Bool)

/-- A character that does not begin an escaped quote. -/
theorem quotePlaces_cons {c : Char} {t : Text} (hesc : c = '\\' → t.head? ≠ some '"') :
    quotePlaces escaped (c :: t) = (if c = '"' ∧ escaped = false then [0] else []) ++
      (quotePlaces escaped t).map (1 + ·) := by
  have hseam : [c].getLast? = some '\\' → t.head? ≠ some '"' :=
    fun hlast => hesc (Option.some.inj hlast)
  rw [← List.singleton_append, quotePlaces_append escaped hseam]
  congr 1
  by_cases hc : c = '"' <;> cases escaped <;> simp [quotePlaces, isQuoteAt, hc]

theorem quotePlaces_escaped (t : Text) :
    quotePlaces escaped ('\\' :: '"' :: t) = (if escaped then [1] else []) ++
      (quotePlaces escaped t).map (2 + ·) := by
  have hseam : ['\\', '"'].getLast? = some '\\' → t.head? ≠ some '"' := nofun
  have h := quotePlaces_append escaped hseam
  rw [List.cons_append, List.singleton_append] at h
  rw [h]
  congr 1
  cases escaped <;> decide

theorem quotePlaces_of_not_mem {t : Text} (h : '"' ∉ t) : quotePlaces escaped t = [] := by
  refine List.filter_eq_nil_iff.2 fun i _ hquote => h ?_
  have hi := (Bool.and_eq_true_iff.1 hquote).1
  exact List.mem_of_getElem? (beq_iff_eq.1 hi)

end

/-! The fault of a scan. -/

/-- Whether the scan for quotes meets an escaped quote with no literal open, when it
begins with one open or none. -/
def EscapesOutsideFrom (inside : Bool) (t : Text) : Prop :=
  ∃ i ∈ t.escapedQuotes, Even (inside.toNat + t.bareQuotes.countP (· < i))

theorem countP_map_add (n i : Nat) (places : List Nat) :
    (places.map (n + ·)).countP (· < n + i) = places.countP (· < i) := by
  rw [List.countP_map]
  exact List.countP_congr fun j _ => by simp

theorem escapesOutsideFrom_cons (inside : Bool) {c : Char} {t : Text}
    (hesc : c = '\\' → t.head? ≠ some '"') :
    EscapesOutsideFrom inside (c :: t) ↔
      EscapesOutsideFrom (if c = '"' then !inside else inside) t := by
  simp only [EscapesOutsideFrom, escapedQuotes, bareQuotes, quotePlaces_cons _ hesc,
    List.countP_append, countP_map_add, Bool.true_eq_false, and_false, and_true, if_false,
    List.nil_append, List.mem_map, exists_exists_and_eq_and]
  by_cases hc : c = '"'
  · cases inside <;> simp [hc, Nat.add_comm 1, parity_simps]
  · simp [hc]

theorem escapesOutsideFrom_escaped (inside : Bool) (t : Text) :
    EscapesOutsideFrom inside ('\\' :: '"' :: t) ↔
      inside = false ∨ EscapesOutsideFrom inside t := by
  simp only [EscapesOutsideFrom, escapedQuotes, bareQuotes, quotePlaces_escaped, countP_map_add,
    if_true, Bool.false_eq_true, if_false, List.nil_append, List.mem_append, List.mem_singleton,
    List.mem_map, or_and_right, exists_or, exists_eq_left, exists_exists_and_eq_and]
  -- No bare quote comes before the escaped one at the front.
  have hfront : ((quotePlaces false t).map (2 + ·)).countP (· < 1) = 0 :=
    List.countP_eq_zero.2 fun j hj => by
      obtain ⟨k, -, rfl⟩ := List.mem_map.1 hj
      simp
  rw [hfront]
  cases inside <;> simp

theorem length_bareQuotes_cons {c : Char} {t : Text} (hesc : c = '\\' → t.head? ≠ some '"') :
    (bareQuotes (c :: t)).length = (if c = '"' then 1 else 0) + t.bareQuotes.length := by
  rw [bareQuotes, quotePlaces_cons _ hesc, List.length_append, List.length_map]
  by_cases hc : c = '"' <;> simp [hc, bareQuotes]

theorem length_bareQuotes_escaped (t : Text) :
    (bareQuotes ('\\' :: '"' :: t)).length = t.bareQuotes.length := by
  simp [bareQuotes, quotePlaces_escaped]

theorem quoteFault?_of_escapesOutsideFrom {inside : Bool} {t : Text}
    (h : EscapesOutsideFrom inside t) :
    quoteFault? inside t = some .escapedQuoteOutsideString := by
  fun_induction quoteFault? inside t with
  | case1 => simp [EscapesOutsideFrom, escapedQuotes, quotePlaces] at h
  | case2 => simp [EscapesOutsideFrom, escapedQuotes, quotePlaces] at h
  | case3 t ih => exact ih (by simpa [escapesOutsideFrom_escaped] using h)
  | case4 => rfl
  | case5 inside c t hne ih => exact ih ((escapesOutsideFrom_cons inside (head?_ne_quote hne)).1 h)

theorem quoteFault?_of_not_escapesOutsideFrom {inside : Bool} {t : Text}
    (h : ¬EscapesOutsideFrom inside t) : quoteFault? inside t =
      if Even (inside.toNat + t.bareQuotes.length) then none else some .unterminatedQuote := by
  fun_induction quoteFault? inside t with
  | case1 => rfl
  | case2 inside hin =>
      obtain rfl : inside = false := Bool.eq_false_iff.2 hin
      rfl
  | case3 t ih =>
      rw [length_bareQuotes_escaped]
      exact ih (by simpa [escapesOutsideFrom_escaped] using h)
  | case4 inside t hin => simp [escapesOutsideFrom_escaped, hin] at h
  | case5 inside c t hne ih =>
      have hesc := head?_ne_quote hne
      rw [ih (mt (escapesOutsideFrom_cons inside hesc).2 h), length_bareQuotes_cons hesc]
      by_cases hc : c = '"'
      · cases inside <;> simp [hc, Nat.add_comm 1, parity_simps]
      · simp [hc]

/-! The literals of a text. -/

theorem bareQuotes_of_isBody {body : Text} (h : IsBody body) :
    body.bareQuotes = [] ∧ body.getLast? ≠ some '\\' := by
  induction h with
  | nil => exact ⟨rfl, nofun⟩
  | @escaped t _ ih =>
      refine ⟨?_, getLast?_cons_ne_some_iff.2 ⟨getLast?_cons_ne_some_iff.2 ⟨ih.2, ?_⟩, nofun⟩⟩
      · rw [bareQuotes, quotePlaces_escaped, ← bareQuotes, ih.1]
        rfl
      · exact fun _ => by decide
  | @char c t hc hesc _ ih =>
      refine ⟨?_, getLast?_cons_ne_some_iff.2 ⟨ih.2, fun hnil heq => (hesc heq).1 hnil⟩⟩
      rw [bareQuotes, quotePlaces_cons false fun heq => (hesc heq).2, ← bareQuotes, ih.1,
        if_neg fun heq => hc heq.1]
      rfl

/-- A literal has two bare quotes, at its ends. -/
theorem bareQuotes_of_isLiteral {l : Text} (h : IsLiteral l) :
    l.bareQuotes = [0, l.length - 1] := by
  obtain ⟨body, hbody, rfl⟩ := h
  obtain ⟨hnone, hlast⟩ := bareQuotes_of_isBody hbody
  have hclosing : quotePlaces false ['"'] = [0] := by decide
  rw [bareQuotes, List.cons_append, quotePlaces_cons false (fun h => absurd h (by decide)),
    quotePlaces_append false (fun heq => absurd heq hlast), ← bareQuotes, hnone, hclosing]
  simp [Nat.add_comm 1]

/-- The front of a text with closed literals, up to its first literal and with it. -/
theorem Quoted.exists_literal {t : Text} {ts : List Token} (h : Quoted t ts) :
    ('"' ∉ t ∧ ts = t.map .char) ∨ ∃ g l rest us, t = g ++ l ++ rest ∧ '"' ∉ g ∧
      g.getLast? ≠ some '\\' ∧ IsLiteral l ∧ Quoted rest us ∧
      ts = g.map .char ++ .literal l :: us := by
  induction h with
  | nil => exact .inl ⟨List.not_mem_nil, rfl⟩
  | @char c t ts hc hesc _ ih =>
      rcases ih with ⟨hnone, rfl⟩ | ⟨g, l, rest, us, rfl, hnone, hlast, hl, hus, rfl⟩
      · exact .inl ⟨by simp [Ne.symm hc, hnone], rfl⟩
      · refine .inr ⟨c :: g, l, rest, us, rfl, by simp [Ne.symm hc, hnone],
          getLast?_cons_ne_some_iff.2 ⟨hlast, ?_⟩, hl, hus, rfl⟩
        rintro rfl heq
        obtain ⟨l, rfl⟩ := head_of_isLiteral hl
        exact hesc heq rfl
  | @literal l t ts hl hts _ =>
      exact .inr ⟨[], l, t, ts, rfl, List.not_mem_nil, nofun, hl, hts, rfl⟩

theorem between_append (u v : Text) (start stop : Nat) :
    between (u ++ v) (u.length + start) (u.length + stop) = between v start stop := by
  rw [between, List.take_length_add_append, List.drop_length_add_append]
  rfl

theorem between_middle (u v w : Text) :
    between (u ++ v ++ w) u.length (u ++ v).length = v := by
  rw [between, List.take_left, List.drop_left]

section

variable {g l rest : Text} (hgap : '"' ∉ g) (hseam : g.getLast? ≠ some '\\') (hl : IsLiteral l)

include hgap hseam hl

theorem bareQuotes_literal : bareQuotes (g ++ l ++ rest) =
    g.length :: ((g ++ l).length - 1) :: rest.bareQuotes.map ((g ++ l).length + ·) := by
  have hplaces := bareQuotes_of_isLiteral hl
  obtain ⟨body, -, rfl⟩ := hl
  have hseam' : (g ++ ('"' :: body ++ ['"'])).getLast? = some '\\' → rest.head? ≠ some '"' := by
    rw [← List.append_assoc, List.getLast?_concat]
    exact nofun
  rw [bareQuotes, quotePlaces_append false hseam',
    quotePlaces_append false fun heq => absurd heq hseam, quotePlaces_of_not_mem false hgap,
    ← bareQuotes, hplaces]
  simp [bareQuotes, Nat.add_assoc]

theorem bareQuote_zero : bareQuote (g ++ l ++ rest) 0 = g.length := by
  rw [bareQuote, bareQuotes_literal hgap hseam hl]
  rfl

theorem bareQuote_one : bareQuote (g ++ l ++ rest) 1 + 1 = (g ++ l).length := by
  have hpos : 0 < (g ++ l).length := by
    obtain ⟨body, -, rfl⟩ := hl
    rw [List.length_append, List.cons_append, List.length_cons]
    omega
  rw [bareQuote, bareQuotes_literal hgap hseam hl]
  exact Nat.sub_add_cancel hpos

theorem bareQuote_add_two (k : Nat) : bareQuote (g ++ l ++ rest) (k + 2) =
    (g ++ l).length + rest.bareQuote k := by
  rw [bareQuote, bareQuotes_literal hgap hseam hl, List.getD_cons_succ, List.getD_cons_succ,
    @List.length_append _ (g ++ l) rest]
  exact List.getD_map ..

theorem literalAt_zero : literalAt (g ++ l ++ rest) 0 = l := by
  rw [literalAt, Nat.mul_zero, Nat.zero_add, bareQuote_zero hgap hseam hl,
    bareQuote_one hgap hseam hl, between_middle]

theorem literalAt_succ (k : Nat) : literalAt (g ++ l ++ rest) (k + 1) = rest.literalAt k := by
  rw [literalAt, Nat.mul_add, Nat.add_right_comm, bareQuote_add_two hgap hseam hl,
    bareQuote_add_two hgap hseam hl, Nat.add_assoc, between_append, literalAt]

theorem gapAt_zero : gapAt (g ++ l ++ rest) 0 = g := by
  rw [gapAt, bareQuote_zero hgap hseam hl, List.append_assoc]
  exact between_middle [] g (l ++ rest)

theorem gapAt_succ (k : Nat) : gapAt (g ++ l ++ rest) (k + 1) = rest.gapAt k := by
  rw [gapAt, bareQuote_add_two hgap hseam hl]
  cases k with
  | zero =>
      rw [Nat.mul_zero, Nat.zero_add, bareQuote_one hgap hseam hl]
      exact between_append _ _ 0 _
  | succ k =>
      rw [Nat.mul_add, Nat.add_right_comm, bareQuote_add_two hgap hseam hl, Nat.add_assoc,
        between_append]
      rfl

theorem literalCount_literal : literalCount (g ++ l ++ rest) = rest.literalCount + 1 := by
  rw [literalCount, bareQuotes_literal hgap hseam hl, List.length_cons, List.length_cons,
    List.length_map, literalCount]
  omega

theorem stretchesByPlace_literal : stretchesByPlace (g ++ l ++ rest) =
    Stretch.outsideUnlessEmpty g (.inside l :: rest.stretchesByPlace) := by
  have hfront : Stretch.outsideUnlessEmpty g [.inside l] ++ rest.stretchesByPlace =
      Stretch.outsideUnlessEmpty g (.inside l :: rest.stretchesByPlace) := by
    cases g <;> rfl
  rw [← hfront, stretchesByPlace, literalCount_literal hgap hseam hl, List.range_succ_eq_map,
    List.flatMap_cons, List.flatMap_map, gapAt_zero hgap hseam hl, literalAt_zero hgap hseam hl,
    gapAt_succ hgap hseam hl, List.append_assoc]
  simp only [gapAt_succ hgap hseam hl, literalAt_succ hgap hseam hl]
  rfl

end

theorem stretchesByPlace_of_not_mem {t : Text} (h : '"' ∉ t) :
    t.stretchesByPlace = Stretch.outsideUnlessEmpty t [] := by
  have hnone : t.bareQuotes = [] := quotePlaces_of_not_mem false h
  have hall : t.between 0 t.length = t := by simp [between]
  simp [stretchesByPlace, literalCount, hnone, gapAt, bareQuote, hall]

/-- The scan finds the stretches at their places. -/
theorem stretchesFrom_eq_stretchesByPlace {t : Text} {ts : List Token} (h : Quoted t ts) :
    stretchesFrom [] ts = t.stretchesByPlace := by
  induction hlen : t.length using Nat.strongRecOn generalizing t ts with
  | ind n ih =>
      subst hlen
      rcases h.exists_literal with
        ⟨hnone, rfl⟩ | ⟨g, l, rest, us, rfl, hgap, hseam, hl, hus, rfl⟩
      · have hchars := stretchesFrom_chars_append [] t []
        rw [List.append_nil] at hchars
        rw [stretchesByPlace_of_not_mem hnone, hchars]
        simp [stretchesFrom]
      · have hlt : rest.length < (g ++ l ++ rest).length := by
          obtain ⟨body, -, rfl⟩ := hl
          simp only [List.length_append, List.length_cons]
          omega
        rw [stretchesByPlace_literal hgap hseam hl, stretchesFrom_chars_append, stretchesFrom,
          ih _ hlt hus rfl]
        simp

/-! What the stretches are. -/

theorem insides_stretchesByPlace (t : Text) :
    Stretch.insides t.stretchesByPlace = (List.range t.literalCount).map t.literalAt := by
  have hall (ks : List Nat) : Stretch.insides (ks.flatMap fun k =>
      Stretch.outsideUnlessEmpty (t.gapAt k) [.inside (t.literalAt k)]) = ks.map t.literalAt := by
    induction ks with
    | nil => rfl
    | cons k ks ih =>
        rw [List.flatMap_cons, Stretch.insides_append, Stretch.insides_outsideUnlessEmpty, ih]
        rfl
  rw [stretchesByPlace, Stretch.insides_append, hall, Stretch.insides_outsideUnlessEmpty]
  exact List.append_nil _

theorem outsides_stretchesByPlace (t : Text) :
    Stretch.outsides t.stretchesByPlace =
      ((List.range (t.literalCount + 1)).map t.gapAt).filter (!List.isEmpty ·) := by
  have hall (ks : List Nat) : Stretch.outsides (ks.flatMap fun k =>
      Stretch.outsideUnlessEmpty (t.gapAt k) [.inside (t.literalAt k)]) =
        (ks.map t.gapAt).filter (!List.isEmpty ·) := by
    induction ks with
    | nil => rfl
    | cons k ks ih =>
        have hcons : (k :: ks).map t.gapAt = [t.gapAt k] ++ ks.map t.gapAt := rfl
        rw [hcons, List.filter_append, List.flatMap_cons, Stretch.outsides_append,
          Stretch.outsides_outsideUnlessEmpty, ih]
        exact congrArg (· ++ _) (List.append_nil _)
  rw [stretchesByPlace, Stretch.outsides_append, hall, Stretch.outsides_outsideUnlessEmpty,
    List.range_succ, List.map_append, List.filter_append]
  exact congrArg (_ ++ ·) (List.append_nil _)

theorem escapesOutsideFrom_false_iff {t : Text} :
    EscapesOutsideFrom false t ↔ t.EscapesOutside := by
  simp [EscapesOutsideFrom, EscapesOutside]

/-- The bare and the escaped quotes of a text decide what the scan for quotes gives. An
escaped quote with an even number of bare ones before it is a fault, otherwise an odd
number of bare quotes is; and if there is neither, the literals are the stretches between
the quotes of a pair, and what is not empty between them stands outside. -/
theorem quotes_eq_by_place (t : Text) :
    t.quotes =
        (if t.EscapesOutside then .error .escapedQuoteOutsideString
        else if Odd t.bareQuotes.length then .error .unterminatedQuote
        else .ok t.stretchesByPlace) ∧
      ∀ ss, t.quotes = .ok ss → Stretch.flatten ss = t ∧
        Stretch.insides ss = (List.range t.literalCount).map t.literalAt ∧
        Stretch.outsides ss =
          ((List.range (t.literalCount + 1)).map t.gapAt).filter (!List.isEmpty ·) := by
  have hscan {ss : List Stretch} (h : t.quotes = .ok ss) : ss = t.stretchesByPlace := by
    obtain ⟨ts, hts, rfl⟩ := quotes_eq_ok_iff.1 h
    exact stretchesFrom_eq_stretchesByPlace hts
  refine ⟨?_, fun ss hss => ⟨flatten_of_quotes hss, ?_, ?_⟩⟩
  · split
    · next h =>
      exact quotes_eq_error_iff.2 <|
        quoteFault?_of_escapesOutsideFrom (escapesOutsideFrom_false_iff.2 h)
    · next h =>
      have hfault := quoteFault?_of_not_escapesOutsideFrom (mt escapesOutsideFrom_false_iff.1 h)
      rw [Bool.toNat_false, Nat.zero_add] at hfault
      split
      · next hodd =>
        rw [if_neg (Nat.not_even_iff_odd.2 hodd)] at hfault
        exact quotes_eq_error_iff.2 hfault
      · next hodd =>
        rw [if_pos (Nat.not_odd_iff_even.1 hodd)] at hfault
        obtain ⟨ss, hss⟩ := exists_quotes_iff.2 hfault
        rw [hss, hscan hss]
  · rw [hscan hss, insides_stretchesByPlace]
  · rw [hscan hss, outsides_stretchesByPlace]

/-- Two literals side by side, an escaped quote in the first and nothing in the second. -/
theorem quotes_eq_by_place_adjacent :
    let t : Text := "x\"a\\\"b\"\"\"y".toList
    let ss : List Stretch :=
      [.outside ['x'], .inside "\"a\\\"b\"".toList, .inside ['"', '"'], .outside ['y']]
    t.quotes = .ok ss ∧ Stretch.flatten ss = t ∧
      Stretch.insides ss = (List.range t.literalCount).map t.literalAt ∧
      Stretch.outsides ss =
        ((List.range (t.literalCount + 1)).map t.gapAt).filter (!List.isEmpty ·) := by
  intro t ss
  have hquotes : t.quotes = .ok ss := by decide
  exact ⟨hquotes, (quotes_eq_by_place t).2 ss hquotes⟩

end Text

end Overlay
