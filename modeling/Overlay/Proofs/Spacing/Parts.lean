import Overlay.Proofs.Spacing.Text

/-!
Parts of respaced texts. What follows a name or a mark, what stands between
delimiters and what stands in brackets is respaced as well.
-/

namespace Overlay.Text

theorem Balanced.of_plain_append {p t : Text} {as : List Token} (hp : ∀ c ∈ p, isPlain c = true)
    (h : Balanced (p ++ t) as) : ∃ bs, Balanced t bs := by
  induction p generalizing as with
  | nil => exact ⟨as, h⟩
  | cons c p ih =>
      obtain ⟨bs, rfl, hbs⟩ := h.of_cons_plain (hp c List.mem_cons_self)
      exact ih (fun d hd => hp d (List.mem_cons_of_mem c hd)) hbs

theorem Respaced.solid_append {p t t' : Text} (hp : IsSolid p) :
    Respaced (p ++ t) t' → ∃ r, t' = p ++ r ∧ Respaced t r := by
  rintro ⟨bs, bs', h, h', hunits⟩
  obtain ⟨as, has⟩ := h.of_plain_append fun c hc => (hp c hc).1
  obtain rfl := h.unique (has.plain_append fun c hc => (hp c hc).1)
  obtain ⟨as', rfl, has'⟩ := hunits.of_chars_append fun c hc => (hp c hc).2
  obtain ⟨u, r, rfl, hu, hr⟩ := h'.split
  obtain rfl : u = p := by rw [← hu.flatten, flatten_chars]
  exact ⟨r, rfl, as, as', has, hr, has'⟩

theorem Respaced.dropPrefix? {p t t' r : Text} (hp : IsSolid p) (hr : dropPrefix? p t = some r)
    (h : Respaced t t') : ∃ r', Text.dropPrefix? p t' = some r' ∧ Respaced r r' := by
  obtain rfl := dropPrefix?_eq_some_iff.1 hr
  obtain ⟨r', rfl, hrest⟩ := h.solid_append hp
  exact ⟨r', dropPrefix?_append p r', hrest⟩

theorem Respaced.leadingName? {t t' name rest : Text} (hname : t.leadingName? = some (name, rest))
    (h : Respaced t t') :
    ∃ rest', t'.leadingName? = some (name, rest') ∧ Respaced rest rest' := by
  obtain ⟨hisName, rfl, hends⟩ := leadingName?_eq_some_iff.1 hname
  obtain ⟨rest', rfl, hrest⟩ := h.solid_append (isSolid_of_isName hisName)
  exact ⟨rest', leadingName?_eq_some_iff.2 ⟨hisName, rfl, hrest.endsWord hends⟩, hrest⟩

theorem Respaced.nameThen? {mark t t' name rest : Text} (hmark : IsSolid mark)
    (hname : nameThen? mark t = some (name, rest)) (h : Respaced t t') :
    ∃ rest', Text.nameThen? mark t' = some (name, rest') ∧ Respaced rest rest' := by
  obtain ⟨after, hleading, hafter⟩ := nameThen?_eq_some_iff.1 hname
  obtain ⟨after', hleading', hrespaced⟩ := h.leadingName? hleading
  have hdrop := hrespaced.dropBlank
  rw [hafter] at hdrop
  obtain ⟨rest', hrest', hrest⟩ := hdrop.solid_append hmark
  exact ⟨rest', nameThen?_eq_some_iff.2 ⟨after', hleading', hrest'⟩, hrest⟩

/-! Cutting. -/

theorem Respaced.split {d : Char} {ds t t' : Text} (hd : IsSolid (d :: ds)) {limit : Option Nat}
    {parts : List Text} (hparts : t.split (d :: ds) limit = .ok parts) :
    Respaced t t' →
      ∃ parts', t'.split (d :: ds) limit = .ok parts' ∧ List.Forall₂ Respaced parts parts' := by
  rintro ⟨as, as', h, h', hunits⟩
  have hne := List.cons_ne_nil d ds
  obtain ⟨bs, hbs, rfl⟩ := (split_eq_ok_iff hne).1 hparts
  obtain rfl := h.unique hbs
  refine ⟨_, (split_eq_ok_iff hne).2 ⟨as', h', rfl⟩, ?_⟩
  have hpiece {t : Text} {us : List Token} (ht : Balanced t us) :
      ∀ x ∈ cutUnits (d :: ds) (limit.map (· - 1)) [] 0 us, Balanced (Token.flatten x) x := by
    intro x hx
    have hjoin := intercalate_cutUnits hne (limit.map (· - 1)) [] 0 us
    refine ht.piece ?_
    rw [List.reverse_nil, List.nil_append, List.drop_zero] at hjoin
    rw [← hjoin]
    exact infix_intercalate hx
  have hcut : List.Forall₂ RespacedUnits (cutUnits (d :: ds) (limit.map (· - 1)) [] 0 as)
      (cutUnits (d :: ds) (limit.map (· - 1)) [] 0 as') :=
    hunits.forall₂_cutUnits (fun c hc => (hd c hc).2) _ .nil
  rw [List.forall₂_map_left_iff, List.forall₂_map_right_iff]
  have hboth := (List.forall₂_and_left _ _).2 ⟨hpiece h,
    ((List.forall₂_and_left _ _).2 ⟨hpiece h', hcut.flip⟩).flip⟩
  exact hboth.imp fun x x' ⟨hx, hx', hxx'⟩ => Respaced.trim ⟨x, x', hx, hx', hxx'⟩

theorem Respaced.split_two {d : Char} {ds t t' a b : Text} (h : Respaced t t')
    (hd : IsSolid (d :: ds)) {limit : Option Nat} (hparts : t.split (d :: ds) limit = .ok [a, b]) :
    ∃ a' b', t'.split (d :: ds) limit = .ok [a', b'] ∧ Respaced a a' ∧ Respaced b b' := by
  obtain ⟨parts', hparts', hall⟩ := h.split hd hparts
  obtain ⟨a', _, ha, hrest, rfl⟩ := List.forall₂_cons_left_iff.1 hall
  obtain ⟨b', _, hb, hnil, rfl⟩ := List.forall₂_cons_left_iff.1 hrest
  cases hnil
  exact ⟨a', b', hparts', ha, hb⟩

/-! Brackets. -/

/-- What stands in a pair of brackets that encloses a whole text. -/
theorem Respaced.brackets {o c : Char} (ho : closer? o = some c) {body t' : Text}
    {bs : List Token} (hbody : Balanced body bs) :
    Respaced (o :: body ++ [c]) t' → ∃ body', t' = o :: body' ++ [c] ∧ Respaced body body' := by
  rintro ⟨as, as', h, h', hunits⟩
  obtain rfl := h.unique (.group ho hbody .nil)
  obtain ⟨l', rfl, rfl | ⟨o', c', u, u', cs, cs', -, heq, rfl, hu, hu', hcs⟩⟩ := hunits.of_literal
  · exact ⟨body, h'.eq_literal.1, .refl hbody⟩
  · obtain ⟨hfront, hback⟩ := List.append_inj' heq rfl
    cases hfront
    cases hback
    exact ⟨u', h'.eq_literal.1, cs, cs', hu, hu', hcs⟩

theorem Respaced.enclosed? {t t' inner : Text} {ss : List Stretch} (hss : t.brackets = .ok ss)
    (hinner : enclosed? ss = some inner) (h : Respaced t t') :
    ∃ ss' inner', t'.brackets = .ok ss' ∧ Text.enclosed? ss' = some inner' ∧
      Respaced inner inner' := by
  obtain ⟨as, has, rfl⟩ := brackets_eq_ok_iff.1 hss
  obtain ⟨rfl, bs, hbs⟩ := (enclosed?_eq_some_iff has).1 hinner
  obtain ⟨inner', rfl, hrespaced⟩ := h.brackets rfl hbs
  obtain ⟨bs', hbs'⟩ := hrespaced.exists_balanced
  have hgroup := Balanced.group (show closer? '(' = some ')' from rfl) hbs' .nil
  exact ⟨_, inner', brackets_eq_ok_iff.2 ⟨_, hgroup, rfl⟩,
    (enclosed?_eq_some_iff hgroup).2 ⟨rfl, bs', hbs'⟩, hrespaced⟩

theorem Respaced.stripParens_some {t t' inner : Text} (hinner : t.stripParens = .ok (some inner))
    (h : Respaced t t') :
    ∃ inner', t'.stripParens = .ok (some inner') ∧ Respaced inner inner' := by
  simp only [stripParens, Except.bind_eq_ok_iff, Except.pure_eq_ok_iff,
    Option.map_eq_some_iff] at hinner
  obtain ⟨ss, hss, group, hgroup, rfl⟩ := hinner
  obtain ⟨ss', group', hss', hgroup', hrespaced⟩ := h.trim.enclosed? hss hgroup
  refine ⟨group'.trim, ?_, hrespaced.trim⟩
  simp [stripParens, hss', hgroup', pure, Except.pure]

theorem Respaced.stripParens_none {t t' : Text} (hnone : t.stripParens = .ok none)
    (h : Respaced t t') : t'.stripParens = .ok none := by
  obtain ⟨as, has⟩ := h.trim.exists_balanced
  have hss := brackets_eq_ok_iff.2 ⟨as, has, rfl⟩
  cases henclosed : Text.enclosed? (stretchesFrom [] as) with
  | none => simp [stripParens, hss, henclosed, pure, Except.pure]
  | some inner =>
      obtain ⟨ss', inner', hss', hinner', -⟩ := h.symm.trim.enclosed? hss henclosed
      simp [stripParens, hss', hinner', pure, Except.pure] at hnone

end Overlay.Text
