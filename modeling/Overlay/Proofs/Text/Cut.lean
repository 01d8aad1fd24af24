import Overlay.Proofs.Text.Parts

/-!
Where a text is cut. Each cut takes away an occurrence of the delimiter that lies in one
stretch outside of all groups and literals, and the parts with the delimiters between
them are the text. Without a limit all cuts are made, so that no part can be cut again.
With a limit the first of these cuts are made and the rest of the text stays in one part.
-/

namespace Overlay.Text

/-- Whether what follows some front of a text begins with a delimiter that lies in one
of the outside stretches. -/
def LiesOutside (ss : List Stretch) (front delimiter : Text) : Prop :=
  ∃ before a b after, ss = before ++ .outside (a ++ delimiter ++ b) :: after ∧
    front = Stretch.flatten before ++ a

/-- Whether untrimmed parts come from cuts outside of groups and literals. -/
structure IsCutting (t : Text) (ss : List Stretch) (delimiter : Text) (raws : List Text) :
    Prop where
  whole : delimiter.intercalate raws = t
  outside : ∀ front back, raws = front ++ back → front ≠ [] → back ≠ [] →
    LiesOutside ss (delimiter.intercalate front) delimiter

/-! Places between units. -/

theorem exists_outside_of_begun {begun : Text} (hne : begun ≠ []) (as : List Token) :
    ∃ b after, stretchesFrom begun as = .outside (begun.reverse ++ b) :: after := by
  induction as generalizing begun with
  | nil =>
      refine ⟨[], [], ?_⟩
      rw [stretchesFrom, Stretch.outsideUnlessEmpty_of_ne_nil (by simpa using hne), List.append_nil]
  | cons a as ih =>
      cases a with
      | char c =>
          obtain ⟨b, after, hss⟩ := ih (List.cons_ne_nil c begun)
          refine ⟨c :: b, after, ?_⟩
          rw [stretchesFrom, hss]
          simp
      | literal l =>
          refine ⟨[], .inside l :: stretchesFrom [] as, ?_⟩
          rw [stretchesFrom, Stretch.outsideUnlessEmpty_of_ne_nil (by simpa using hne),
            List.append_nil]

/-- Characters that are units in a row stand in one outside stretch. -/
theorem exists_outside_of_chars {delimiter : Text} (hne : delimiter ≠ []) (begun : Text)
    (front back : List Token) : ∃ before a b after,
      stretchesFrom begun (front ++ delimiter.map .char ++ back) =
        before ++ .outside (a ++ delimiter ++ b) :: after ∧
      begun.reverse ++ Token.flatten front = Stretch.flatten before ++ a := by
  induction front generalizing begun with
  | nil =>
      have hbegun : delimiter.reverse ++ begun ≠ [] := by simp [hne]
      obtain ⟨b, after, hss⟩ := exists_outside_of_begun hbegun back
      refine ⟨[], begun.reverse, b, after, ?_, by simp [Stretch.flatten]⟩
      rw [List.nil_append, stretchesFrom_chars_append, hss]
      simp
  | cons x front ih =>
      cases x with
      | char c =>
          obtain ⟨before, a, b, after, hss, hfront⟩ := ih (c :: begun)
          refine ⟨before, a, b, after, hss, ?_⟩
          rw [← hfront]
          simp [Token.text]
      | literal l =>
          obtain ⟨before, a, b, after, hss, hfront⟩ := ih []
          refine ⟨Stretch.outsideUnlessEmpty begun.reverse (.inside l :: before), a, b, after,
            ?_, ?_⟩
          · rw [List.cons_append, List.cons_append, stretchesFrom, hss]
            cases begun.reverse <;> rfl
          · rw [flatten_outsideUnlessEmpty, Stretch.flatten_cons, List.append_assoc,
              List.append_assoc, ← hfront]
            rfl

/-! Cuts between units. -/

/-- With a bound the first cuts are made, and the rest is not cut. -/
theorem cutUnits_some {delimiter : Text} (hne : delimiter ≠ []) (k : Nat) {begun : List Token}
    {skip : Nat} {as : List Token} {xs : List (List Token)}
    (h : cutUnits delimiter none begun skip as = xs) :
    cutUnits delimiter (some k) begun skip as = xs.take (min k (xs.length - 1)) ++
      [(delimiter.map Token.char).intercalate (xs.drop (min k (xs.length - 1)))] := by
  induction as generalizing k begun skip xs with
  | nil =>
      subst h
      simp [cutUnits]
  | cons a as ih =>
      cases skip with
      | succ skip => exact ih k h
      | zero =>
          cases hcut : (delimiter.map Token.char).isPrefixOf (a :: as) with
          | false =>
              rw [cutUnits, hcut, Bool.and_false, if_neg Bool.false_ne_true] at h ⊢
              exact ih k h
          | true =>
              -- The unlimited cut is made here; a bound of zero leaves the rest as it is.
              cases k with
              | zero =>
                  have hwhole := intercalate_cutUnits hne none begun 0 (a :: as)
                  rw [h] at hwhole
                  rw [cutUnits_spent (by rfl), Nat.zero_min, List.take_zero, List.drop_zero, hwhole]
                  rfl
              | succ k =>
                  obtain ⟨y, ys, hys⟩ := List.exists_cons_of_ne_nil
                    (cutUnits_ne_nil delimiter none [] (delimiter.length - 1) as)
                  have hcuts : begun.reverse :: y :: ys = xs := by
                    rw [← h, cutUnits, hcut, if_pos (by rfl), ← hys]
                    rfl
                  have hmin : min (k + 1) (xs.length - 1) = min k ((y :: ys).length - 1) + 1 := by
                    rw [← hcuts, List.length_cons, List.length_cons]
                    omega
                  rw [cutUnits, hcut, if_pos (by rfl), hmin, ← hcuts, List.take_succ_cons,
                    List.drop_succ_cons, List.cons_append]
                  exact congrArg (begun.reverse :: ·) (ih k hys)

theorem infix_of_mem_cutUnits_budget {delimiter : Text} (hne : delimiter ≠ []) {budget : Budget}
    {as x : List Token} (h : x ∈ cutUnits delimiter budget [] 0 as) : x <:+: as := by
  have hwhole := intercalate_cutUnits hne budget [] 0 as
  rw [List.reverse_nil, List.nil_append, List.drop_zero] at hwhole
  exact hwhole ▸ infix_intercalate h

/-- The cuts that are made lie outside of groups and literals. -/
theorem isCutting_cutUnits {delimiter : Text} (hne : delimiter ≠ []) (budget : Budget) {t : Text}
    {as : List Token} (h : Balanced t as) :
    IsCutting t (stretchesFrom [] as) delimiter
      ((cutUnits delimiter budget [] 0 as).map Token.flatten) := by
  have hwhole := intercalate_cutUnits hne budget [] 0 as
  rw [List.reverse_nil, List.nil_append, List.drop_zero] at hwhole
  refine ⟨?_, fun front back hparts hfront hback => ?_⟩
  · rw [intercalate_eq_flatten, hwhole, h.flatten]
  · obtain ⟨xs, ys, hxs, rfl, rfl⟩ := List.map_eq_append_iff.1 hparts
    rw [hxs, intercalate_append (by simpa using hfront) (by simpa using hback)] at hwhole
    obtain ⟨before, a, b, after, hss, heq⟩ := exists_outside_of_chars hne []
      ((delimiter.map Token.char).intercalate xs) ((delimiter.map Token.char).intercalate ys)
    rw [hwhole] at hss
    exact ⟨before, a, b, after, hss, by rw [intercalate_eq_flatten]; exact heq⟩

/-- A text that cannot be cut is cut into itself. -/
theorem split_eq_singleton_of_isWhole {p delimiter : Text} (hne : delimiter ≠ [])
    (h : p.IsWhole delimiter) : p.split delimiter none = .ok [p.trim] := by
  obtain ⟨parts, hparts, hlen⟩ := h
  obtain ⟨raws, hjoin, rfl⟩ := exists_intercalate_of_split hne hparts
  have hpos := List.length_pos_iff.2 (ne_nil_of_split hne hparts)
  obtain ⟨raw, rfl⟩ : ∃ raw, raws = [raw] := by
    rw [List.length_map] at hlen hpos
    exact List.length_eq_one_iff.1 (by omega)
  rw [hparts, hjoin, List.intercalate_singleton]
  rfl

/-- A text is cut at occurrences of the delimiter outside of groups and literals, and
only there; the untrimmed parts with the delimiter between them make up the text. No part
of the unlimited cut can be cut again. A limit lets the first parts be and leaves the
rest of the text in the last one, and there is at least one part. -/
theorem split_cuts_outside {delimiter : Text} (hne : delimiter ≠ []) (t : Text)
    (limit : Option Nat) :
    (∀ e, t.brackets = .error e → t.split delimiter limit = .error e) ∧
    ∀ ss, t.brackets = .ok ss → ∃ raws all : List Text,
      t.split delimiter limit = .ok (raws.map trim) ∧
      t.split delimiter none = .ok (all.map trim) ∧
      IsCutting t ss delimiter raws ∧ IsCutting t ss delimiter all ∧
      (∀ p ∈ all.map trim, p.split delimiter none = .ok [p]) ∧
      (∀ p ∈ raws.map trim, ∃ ps, p.brackets = .ok ps) ∧
      (limit = none → raws = all) ∧
      ∀ n, limit = some n → raws.length = min (max n 1) all.length ∧
        raws = all.take (raws.length - 1) ++
          [delimiter.intercalate (all.drop (raws.length - 1))] := by
  refine ⟨fun e he => ?_, fun ss hss => ?_⟩
  · rw [split, he]
    rfl
  obtain ⟨as, has, rfl⟩ := brackets_eq_ok_iff.1 hss
  have hsplit (limit : Option Nat) : t.split delimiter limit =
      .ok (((cutUnits delimiter (limit.map (· - 1)) [] 0 as).map Token.flatten).map trim) := by
    rw [List.map_map]
    exact (split_eq_ok_iff hne).2 ⟨as, has, rfl⟩
  refine ⟨_, _, hsplit limit, hsplit none, isCutting_cutUnits hne _ has,
    isCutting_cutUnits hne _ has, fun p hp => ?_, fun p hp => ?_, ?_, ?_⟩
  · obtain ⟨hwhole, -⟩ := isWhole_of_mem_split hne (hsplit none) hp
    have hone := split_eq_singleton_of_isWhole hne hwhole
    rwa [trim_of_mem_split (hsplit none) hp] at hone
  · obtain ⟨raw, hraw, rfl⟩ := List.mem_map.1 hp
    obtain ⟨x, hx, rfl⟩ := List.mem_map.1 hraw
    obtain ⟨bs, -, hbs⟩ := (has.piece (infix_of_mem_cutUnits_budget hne hx)).trim
    exact ⟨_, brackets_eq_ok_iff.2 ⟨bs, hbs, rfl⟩⟩
  · rintro rfl
    rfl
  · rintro n rfl
    rw [Option.map_some, Option.map_none]
    generalize hxs : cutUnits delimiter none [] 0 as = xs
    have hpos : 0 < xs.length := by
      rw [← hxs]
      exact List.length_pos_iff.2 (cutUnits_ne_nil delimiter none [] 0 as)
    have hraws : (cutUnits delimiter (some (n - 1)) [] 0 as).map Token.flatten =
        (xs.map Token.flatten).take (min (n - 1) (xs.length - 1)) ++
          [delimiter.intercalate ((xs.map Token.flatten).drop (min (n - 1) (xs.length - 1)))] := by
      rw [cutUnits_some hne (n - 1) hxs, List.map_append, List.map_take, List.map_singleton,
        ← intercalate_eq_flatten, List.map_drop]
    have hlen : ((cutUnits delimiter (some (n - 1)) [] 0 as).map Token.flatten).length =
        min (n - 1) (xs.length - 1) + 1 := by
      rw [hraws, List.length_append, List.length_take, List.length_map, List.length_singleton]
      omega
    rw [hlen, Nat.add_sub_cancel, List.length_map]
    exact ⟨by omega, hraws⟩

/-- A limit of two at a delimiter of two characters, which stands in a group, in a
literal and twice outside. -/
theorem split_cuts_outside_two :
    let t : Text := "f(a::b) :: \"::\" :: c".toList
    ∃ raws all : List Text, t.split [':', ':'] (some 2) = .ok (raws.map trim) ∧
      t.split [':', ':'] none = .ok (all.map trim) ∧
      IsCutting t [.outside ['f'], .inside "(a::b)".toList, .outside " :: ".toList,
        .inside "\"::\"".toList, .outside " :: c".toList] [':', ':'] raws ∧
      raws.length = 2 ∧ all.length = 3 ∧
      raws = all.take 1 ++ [[':', ':'].intercalate (all.drop 1)] := by
  intro t
  obtain ⟨raws, all, hraws, hall, hcutting, -, -, -, -, hlimit⟩ :=
    (split_cuts_outside (List.cons_ne_nil ':' [':']) t (some 2)).2
      [.outside ['f'], .inside "(a::b)".toList, .outside " :: ".toList,
        .inside "\"::\"".toList, .outside " :: c".toList] (by decide)
  have hthree : t.split [':', ':'] none =
      .ok ["f(a::b)".toList, "\"::\"".toList, ['c']] := by decide
  have hlen : all.length = 3 := by
    rw [hall] at hthree
    have hparts := congrArg List.length (Except.ok.inj hthree)
    simpa using hparts
  obtain ⟨hmin, hrest⟩ := hlimit 2 rfl
  rw [hlen] at hmin
  rw [hmin] at hrest
  exact ⟨raws, all, hraws, hall, hcutting, hmin, hlen, hrest⟩

end Overlay.Text
