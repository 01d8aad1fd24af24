import Overlay.Proofs.Text.Blank
import Overlay.Proofs.Text.Bracket
import Overlay.Proofs.Text.Intercalate
import Overlay.Text.Split
import Mathlib.Data.List.Basic

/-!
Cutting at a delimiter, on the units of a balanced text. The parts are pieces
of the text in which the delimiter does not occur any more, and together with
the delimiter between them they make up the text. In the other direction,
pieces without the first character of the delimiter are found again.
-/

namespace Overlay.Text

@[simp] theorem flatten_nil : Token.flatten [] = [] := rfl

@[simp] theorem flatten_cons (a : Token) (as : List Token) :
    Token.flatten (a :: as) = a.text ++ Token.flatten as := rfl

@[simp] theorem flatten_append (as bs : List Token) :
    Token.flatten (as ++ bs) = Token.flatten as ++ Token.flatten bs :=
  List.flatMap_append

@[simp] theorem flatten_chars (t : Text) : Token.flatten (t.map .char) = t := by
  induction t with
  | nil => rfl
  | cons c t ih => simp [Token.text, ih]

/-- The parts of a sequence of units, as `cutStretch` and `partsFrom` find
them in stretches. -/
def cutUnits (delimiter : Text) (budget : Budget) (begun : List Token) (skip : Nat) :
    List Token → List (List Token)
  | [] => [begun.reverse]
  | a :: rest =>
    match skip with
    | skip + 1 => cutUnits delimiter budget begun skip rest
    | 0 =>
      if !budget.isSpent && (delimiter.map Token.char).isPrefixOf (a :: rest) then
        begun.reverse :: cutUnits delimiter budget.spend [] (delimiter.length - 1) rest
      else cutUnits delimiter budget (a :: begun) 0 rest

/-- The text of units that were collected in reverse, in reverse. -/
def reversedText (begun : List Token) : Text := (Token.flatten begun.reverse).reverse

theorem reversedText_char (c : Char) (begun : List Token) :
    reversedText (.char c :: begun) = c :: reversedText begun := by
  simp [reversedText, Token.text]

theorem reversedText_literal (t : Text) (begun : List Token) :
    reversedText (.literal t :: begun) = t.reverse ++ reversedText begun := by
  simp [reversedText, Token.text]

theorem reverse_reversedText (begun : List Token) :
    (reversedText begun).reverse = Token.flatten begun.reverse := by
  simp [reversedText]

/-- Whether no character comes first in a sequence of units. -/
def BeginsInside (as : List Token) : Prop := ∀ c, as.head? ≠ some (.char c)

theorem isPrefixOf_chars {delimiter u : Text} {tail : List Token} (htail : BeginsInside tail) :
    (delimiter.map Token.char).isPrefixOf (u.map Token.char ++ tail) =
      delimiter.isPrefixOf u := by
  induction delimiter generalizing u with
  | nil => simp
  | cons d delimiter ih =>
      cases u with
      | nil =>
          cases tail with
          | nil => rfl
          | cons a tail =>
              have hne : Token.char d ≠ a := fun heq => htail d (by rw [heq]; rfl)
              simpa [List.isPrefixOf] using fun heq => absurd heq hne
      | cons c u =>
          have hbeq : (Token.char d == Token.char c) = (d == c) := by
            by_cases h : d = c
            · simp [h]
            · rw [beq_eq_false_iff_ne.2 h, beq_eq_false_iff_ne.2 fun heq => h (Token.char.inj heq)]
          simp [List.isPrefixOf, hbeq, ih]

/-- Outside of groups and literals the cuts are those of a stretch. -/
theorem cutUnits_chars {delimiter u : Text} {budget : Budget} {begun tail : List Token}
    {skip : Nat} (hskip : skip ≤ u.length) (htail : BeginsInside tail) :
    ∃ begun', reversedText begun' =
        (cutStretch delimiter budget (reversedText begun) skip u).2.1 ∧
      (cutUnits delimiter budget begun skip (u.map .char ++ tail)).map Token.flatten =
        (cutStretch delimiter budget (reversedText begun) skip u).1 ++
          (cutUnits delimiter (cutStretch delimiter budget (reversedText begun) skip u).2.2
            begun' 0 tail).map Token.flatten := by
  induction u generalizing budget begun skip with
  | nil =>
      obtain rfl : skip = 0 := by simpa using hskip
      exact ⟨begun, rfl, rfl⟩
  | cons c u ih =>
      cases skip with
      | succ skip => exact ih (Nat.le_of_succ_le_succ hskip)
      | zero =>
          have hstart : (delimiter.map Token.char).isPrefixOf ((c :: u).map Token.char ++ tail) =
              delimiter.isPrefixOf (c :: u) := isPrefixOf_chars htail
          rw [List.map_cons, List.cons_append] at hstart ⊢
          simp only [cutUnits, cutStretch, hstart]
          split
          · next hcut =>
            have hlen : delimiter.length - 1 ≤ u.length := by
              have hpre := (Bool.and_eq_true_iff.1 hcut).2
              have hle := List.IsPrefix.length_le <| List.isPrefixOf_iff_prefix.1 hpre
              rw [List.length_cons] at hle
              omega
            obtain ⟨begun', htext, hparts⟩ := @ih budget.spend [] _ hlen
            refine ⟨begun', htext, ?_⟩
            rw [List.map_cons, hparts, reverse_reversedText]
            rfl
          · obtain ⟨begun', htext, hparts⟩ :=
              @ih budget (.char c :: begun) 0 (Nat.zero_le _)
            rw [reversedText_char] at htext hparts
            exact ⟨begun', htext, hparts⟩

theorem partsFrom_outsideUnlessEmpty (delimiter : Text) (budget : Budget) (begun u : Text)
    (ss : List Stretch) :
    partsFrom delimiter budget begun (Stretch.outsideUnlessEmpty u ss) =
      (cutStretch delimiter budget begun 0 u).1 ++
        partsFrom delimiter (cutStretch delimiter budget begun 0 u).2.2
          (cutStretch delimiter budget begun 0 u).2.1 ss := by
  cases u <;> rfl

/-- The parts of the stretches are those of the units. -/
theorem partsFrom_stretchesFrom {delimiter : Text} (hne : delimiter ≠ []) (budget : Budget)
    (begun : List Token) (outside : Text) (as : List Token) :
    partsFrom delimiter budget (reversedText begun) (stretchesFrom outside as) =
      (cutUnits delimiter budget begun 0 (outside.reverse.map .char ++ as)).map
        Token.flatten := by
  induction as generalizing budget begun outside with
  | nil =>
      have htail : BeginsInside [] := by simp [BeginsInside]
      obtain ⟨begun', htext, hparts⟩ :=
        @cutUnits_chars delimiter outside.reverse budget begun [] 0 (Nat.zero_le _) htail
      rw [stretchesFrom, partsFrom_outsideUnlessEmpty, hparts, ← htext, partsFrom,
        reverse_reversedText]
      rfl
  | cons a as ih =>
      cases a with
      | char c =>
          rw [stretchesFrom, ih]
          simp
      | literal t =>
          have htail : BeginsInside (.literal t :: as) := by simp [BeginsInside]
          obtain ⟨begun', htext, hparts⟩ :=
            @cutUnits_chars delimiter outside.reverse budget begun (.literal t :: as) 0
              (Nat.zero_le _) htail
          have hcut : (delimiter.map Token.char).isPrefixOf (.literal t :: as) = false := by
            cases delimiter with
            | nil => exact absurd rfl hne
            | cons d delimiter => rfl
          rw [stretchesFrom, partsFrom_outsideUnlessEmpty, hparts, ← htext, partsFrom,
            ← reversedText_literal, ih, cutUnits, hcut, Bool.and_false]
          rfl

/-- Cutting a text is cutting its units. -/
theorem split_eq_ok_iff {t delimiter : Text} (hne : delimiter ≠ []) {limit : Option Nat}
    {parts : List Text} : t.split delimiter limit = .ok parts ↔
      ∃ as, Balanced t as ∧ parts =
        (cutUnits delimiter (limit.map (· - 1)) [] 0 as).map fun x => (Token.flatten x).trim := by
  have hparts (as : List Token) : (partsFrom delimiter (limit.map (· - 1)) []
      (stretchesFrom [] as)).map trim = (cutUnits delimiter (limit.map (· - 1)) [] 0 as).map
        fun x => (Token.flatten x).trim := by
    have h := partsFrom_stretchesFrom hne (limit.map (· - 1)) [] [] as
    rw [show reversedText [] = [] from rfl] at h
    rw [h, List.map_map]
    rfl
  simp only [split, Except.bind_eq_ok_iff, Except.pure_eq_ok_iff, brackets_eq_ok_iff]
  constructor
  · rintro ⟨ss, ⟨as, has, rfl⟩, rfl⟩
    exact ⟨as, has, hparts as⟩
  · rintro ⟨as, has, rfl⟩
    exact ⟨_, ⟨as, has, rfl⟩, hparts as⟩

theorem cutUnits_ne_nil (delimiter : Text) (budget : Budget) (begun : List Token) (skip : Nat)
    (as : List Token) : cutUnits delimiter budget begun skip as ≠ [] := by
  fun_induction cutUnits delimiter budget begun skip as <;> simp_all

theorem ne_nil_of_split {t delimiter : Text} (hne : delimiter ≠ []) {limit : Option Nat}
    {parts : List Text} (h : t.split delimiter limit = .ok parts) : parts ≠ [] := by
  obtain ⟨as, -, rfl⟩ := (split_eq_ok_iff hne).1 h
  exact fun hnil => cutUnits_ne_nil _ _ _ _ _ (List.map_eq_nil_iff.1 hnil)

/-- The parts with the delimiter between them make up the whole. -/
theorem intercalate_cutUnits {delimiter : Text} (hne : delimiter ≠ []) (budget : Budget)
    (begun : List Token) (skip : Nat) (as : List Token) :
    (delimiter.map Token.char).intercalate (cutUnits delimiter budget begun skip as) =
      begun.reverse ++ as.drop skip := by
  fun_induction cutUnits delimiter budget begun skip as with
  | case1 => simp
  | case2 _ _ _ _ _ ih => simpa using ih
  | case3 budget begun a rest hcut ih =>
      have hpre := List.isPrefixOf_iff_prefix.1 (Bool.and_eq_true_iff.1 hcut).2
      obtain ⟨tail, htail⟩ := hpre
      rw [List.intercalate_cons_of_ne_nil (cutUnits_ne_nil _ _ _ _ _), ih, List.drop_zero, ← htail]
      cases delimiter with
      | nil => exact absurd rfl hne
      | cons d delimiter =>
          simp only [List.map_cons, List.cons_append, List.cons.injEq] at htail
          simp [← htail.2]
  | case4 budget begun a rest hcut ih => simpa using ih

/-- The first part stops where the delimiter first occurs, and in none of the
parts after it does the delimiter occur. -/
theorem infix_of_cutUnits {delimiter : Text} (hne : delimiter ≠ []) {begun : List Token}
    {skip : Nat} {as x : List Token} {xs : List (List Token)}
    (h : cutUnits delimiter none begun skip as = x :: xs) :
    (∃ y, y <+: as.drop skip ∧ x = begun.reverse ++ y ∧ ¬delimiter.map Token.char <:+: y) ∧
      ∀ z ∈ xs, z <:+: as ∧ ¬delimiter.map Token.char <:+: z := by
  have hnil : ¬delimiter.map Token.char <:+: [] := by simpa using hne
  induction as generalizing begun skip x xs with
  | nil =>
      obtain ⟨rfl, rfl⟩ := List.cons.inj h
      exact ⟨⟨[], List.nil_prefix, (List.append_nil _).symm, hnil⟩, nofun⟩
  | cons a as ih =>
      cases skip with
      | succ skip =>
          obtain ⟨hfirst, hrest⟩ := ih h
          exact ⟨hfirst, fun z hz => ⟨(hrest z hz).1.trans (List.suffix_cons a as).isInfix,
            (hrest z hz).2⟩⟩
      | zero =>
          rw [cutUnits] at h
          split at h
          · obtain ⟨rfl, rfl⟩ := List.cons.inj h
            -- At a cut the first part is done, and the next one begins behind the delimiter.
            refine ⟨⟨[], List.nil_prefix, (List.append_nil _).symm, hnil⟩, fun z hz => ?_⟩
            obtain ⟨w, ws, hws⟩ := List.exists_cons_of_ne_nil
              (cutUnits_ne_nil delimiter none [] (delimiter.length - 1) as)
            obtain ⟨⟨y, hy, hw, hnot⟩, hrest⟩ := ih hws
            have htail := (List.suffix_cons a as).isInfix
            change z ∈ cutUnits delimiter none [] (delimiter.length - 1) as at hz
            rw [hws] at hz
            rcases List.mem_cons.1 hz with rfl | hz
            · rw [hw, List.reverse_nil, List.nil_append]
              exact ⟨(hy.isInfix.trans (List.drop_suffix _ as).isInfix).trans htail, hnot⟩
            · exact ⟨(hrest z hz).1.trans htail, (hrest z hz).2⟩
          · next hcut =>
            obtain ⟨⟨y, hy, rfl, hnot⟩, hrest⟩ := ih h
            -- No occurrence begins here, or there would have been a cut.
            have hpre : a :: y <+: a :: as := List.prefix_cons_inj a |>.2 hy
            refine ⟨⟨a :: y, hpre, by simp, fun hocc => ?_⟩, fun z hz => ?_⟩
            · rcases List.infix_cons_iff.1 hocc with hstart | hocc
              · refine hcut (Bool.and_eq_true_iff.2 ⟨rfl, ?_⟩)
                exact List.isPrefixOf_iff_prefix.2 (hstart.trans hpre)
              · exact hnot hocc
            · exact ⟨(hrest z hz).1.trans (List.suffix_cons a as).isInfix, (hrest z hz).2⟩

theorem infix_of_mem_cutUnits {delimiter : Text} (hne : delimiter ≠ []) {as z : List Token}
    (h : z ∈ cutUnits delimiter none [] 0 as) :
    z <:+: as ∧ ¬delimiter.map Token.char <:+: z := by
  obtain ⟨x, xs, hxs⟩ := List.exists_cons_of_ne_nil (cutUnits_ne_nil delimiter none [] 0 as)
  obtain ⟨⟨y, hy, rfl, hnot⟩, hrest⟩ := infix_of_cutUnits hne hxs
  rw [hxs] at h
  rcases List.mem_cons.1 h with rfl | hz
  · exact ⟨hy.isInfix, hnot⟩
  · exact hrest z hz

theorem cutUnits_step {delimiter : Text} {a : Token} {as : List Token}
    (h : ¬delimiter.map Token.char <+: a :: as) (budget : Budget) (begun : List Token) :
    cutUnits delimiter budget begun 0 (a :: as) = cutUnits delimiter budget (a :: begun) 0 as := by
  have hcut : (delimiter.map Token.char).isPrefixOf (a :: as) = false := by
    rw [Bool.eq_false_iff]
    exact fun htrue => h (List.isPrefixOf_iff_prefix.1 htrue)
  rw [cutUnits, hcut, Bool.and_false, if_neg Bool.false_ne_true]

/-- Units without the delimiter are not cut. -/
theorem cutUnits_of_not_occurs {delimiter : Text} {as : List Token}
    (h : ¬delimiter.map Token.char <:+: as) (begun : List Token) :
    cutUnits delimiter none begun 0 as = [begun.reverse ++ as] := by
  induction as generalizing begun with
  | nil => simp [cutUnits]
  | cons a as ih =>
      obtain ⟨hstart, hrest⟩ := not_or.1 (mt List.infix_cons_iff.2 h)
      rw [cutUnits_step hstart, ih hrest]
      simp

theorem cutUnits_pass {d : Char} {x : List Token} (hx : Token.char d ∉ x) (ds : Text)
    (budget : Budget) (begun rest : List Token) :
    cutUnits (d :: ds) budget begun 0 (x ++ rest) =
      cutUnits (d :: ds) budget (x.reverse ++ begun) 0 rest := by
  induction x generalizing begun with
  | nil => rfl
  | cons a x ih =>
      obtain ⟨hne, hx⟩ := List.ne_and_not_mem_of_not_mem_cons hx
      have hstart : ¬(d :: ds).map Token.char <+: a :: (x ++ rest) := by
        rintro ⟨tail, htail⟩
        exact hne (List.cons.inj htail).1
      rw [List.cons_append, cutUnits_step hstart, ih hx (a :: begun)]
      simp

theorem cutUnits_skip (delimiter : Text) (budget : Budget) (begun ys rest : List Token) :
    cutUnits delimiter budget begun ys.length (ys ++ rest) =
      cutUnits delimiter budget begun 0 rest := by
  induction ys with
  | nil => rfl
  | cons y ys ih => exact ih

theorem cutUnits_delimiter (d : Char) (ds : Text) {budget : Budget}
    (hspent : budget.isSpent = false) (begun rest : List Token) :
    cutUnits (d :: ds) budget begun 0 ((d :: ds).map Token.char ++ rest) =
      begun.reverse :: cutUnits (d :: ds) budget.spend [] 0 rest := by
  have hpre := List.isPrefixOf_iff_prefix.2
    (List.prefix_append ((d :: ds).map Token.char) rest)
  have hskip := cutUnits_skip (d :: ds) budget.spend [] (ds.map Token.char) rest
  rw [List.length_map] at hskip
  rw [List.map_cons, List.cons_append] at hpre ⊢
  rw [cutUnits, List.map_cons, hpre, hspent, if_pos (by rfl)]
  exact congrArg (begun.reverse :: ·) hskip

theorem cutUnits_spent {budget : Budget} (hspent : budget.isSpent = true) (delimiter : Text)
    (begun as : List Token) :
    cutUnits delimiter budget begun 0 as = [begun.reverse ++ as] := by
  induction as generalizing begun with
  | nil => simp [cutUnits]
  | cons a as ih => simp [cutUnits, hspent, ih]

/-- Pieces without the first character of the delimiter are the parts of what
they make up. -/
theorem cutUnits_intercalate {d : Char} {ds : Text} {xs : List (List Token)} (hne : xs ≠ [])
    (h : ∀ x ∈ xs, Token.char d ∉ x) :
    cutUnits (d :: ds) none [] 0 (((d :: ds).map Token.char).intercalate xs) = xs := by
  induction xs with
  | nil => exact absurd rfl hne
  | cons x xs ih =>
      have hx := h x List.mem_cons_self
      cases hxs : xs with
      | nil =>
          have hlast := cutUnits_pass hx ds none [] []
          rw [List.append_nil, List.append_nil] at hlast
          rw [List.intercalate_singleton, hlast, cutUnits, List.reverse_reverse]
      | cons y ys =>
          have hne : xs ≠ [] := by
            rw [hxs]
            exact List.cons_ne_nil y ys
          have hrest := ih hne fun z hz => h z (List.mem_cons_of_mem x hz)
          rw [← hxs, List.intercalate_cons_of_ne_nil hne, List.append_assoc, cutUnits_pass hx,
            List.append_nil,
            cutUnits_delimiter d ds rfl, List.reverse_reverse]
          exact congrArg (x :: ·) hrest

end Overlay.Text
