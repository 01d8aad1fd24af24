import Overlay.Proofs.Condition.Shape

/-!
The grammar of written conditions. Reading a trimmed text succeeds exactly on
the texts that the grammar gives for some condition, with that condition as
its result. Parts between `||` may hold `&&`, and everything else that is not
a leaf stands in round brackets when it is a part; a chain of parts with one
sign is one node. The grammar is taken over the form of the leaves: with all
leaves that are read it is the grammar of conditions, and with fewer a part of
it.
-/

namespace Overlay.Condition

open Text

/-- Where a condition stands: for itself, or as an operand. -/
inductive Place
  | whole
  | operand (k : Connective)

/-- Whether a node may stand in a place without brackets. -/
def Place.Admits : Place → Connective → Prop
  | whole, _ => True
  | operand .any, .all => True
  | operand _, _ => False

mutual

/-- The texts of a condition in a place, with a form for its leaves. -/
inductive Written (P : Text → Leaf → Prop) : Place → Condition → Text → Prop
  | leaf {place : Place} {l : Leaf} {t : Text} : P t l → Written P place (.leaf l) t
  | node {place : Place} {k : Connective} {cs : List Condition} {t : Text} :
      place.Admits k → 2 ≤ cs.length → WrittenAll P k cs t → Written P place (k.node cs) t
  | parens {place : Place} {c : Condition} {b t b' : Text} : b.allBlank = true →
      b'.allBlank = true → Written P .whole c t → Written P place c ('(' :: b ++ t ++ b' ++ [')'])

/-- The texts of operands with a sign between them. -/
inductive WrittenAll (P : Text → Leaf → Prop) : Connective → List Condition → Text → Prop
  | last {k : Connective} {c : Condition} {t : Text} : Written P (.operand k) c t →
      WrittenAll P k [c] t
  | cons {k : Connective} {c : Condition} {cs : List Condition} {s b b' t : Text} :
      Written P (.operand k) c s → b.allBlank = true → b'.allBlank = true → WrittenAll P k cs t →
      WrittenAll P k (c :: cs) (s ++ b ++ k.sign ++ b' ++ t)

end

/-- The form of every leaf that is read. -/
abbrev IsRead (t : Text) (l : Leaf) : Prop := Leaf.ofText t = .ok l

/-- The texts that stand for a condition in a place. -/
abbrev Renders : Place → Condition → Text → Prop := Written IsRead

/-! Reading gives a text of the grammar. -/

/-- Whether nothing outside of brackets in a text may be read as a connective
that the place does not admit. -/
def Place.Keeps (t : Text) : Place → Prop
  | whole => True
  | operand .any => t.IsWhole orSign
  | operand .all => t.IsWhole orSign ∧ t.IsWhole andSign

theorem dropBlankEnd_eq_trim {t : Text} (h : StartsSolid t) : dropBlankEnd t = t.trim := by
  rw [trim, dropBlank_of_startsSolid h]

theorem startsSolid_of_append {s t : Text} (h : StartsSolid (s ++ t)) : StartsSolid s := by
  cases s with
  | nil => exact startsSolid_nil
  | cons c s => simpa using h

theorem endsSolid_of_append {s t : Text} (h : EndsSolid (s ++ t)) : EndsSolid t := by
  rw [endsSolid_iff_reverse, List.reverse_append] at h
  exact endsSolid_iff_reverse.2 (startsSolid_of_append h)

/-- Operands that were trimmed can be joined with the blanks that were around
them. -/
theorem writtenAll_intercalate {k : Connective} {c : Condition} {cs : List Condition} {r : Text}
    {rs : List Text} (hr : Renders (.operand k) c r.trim)
    (hrs : List.Forall₂ (fun r c => Renders (.operand k) c (trim r)) rs cs)
    (hstart : StartsSolid r) (hend : EndsSolid (k.sign.intercalate (r :: rs))) :
    WrittenAll IsRead k (c :: cs) (k.sign.intercalate (r :: rs)) := by
  induction rs generalizing c cs r with
  | nil =>
      cases hrs
      rw [List.intercalate_singleton] at hend ⊢
      have htrim : r.trim = r := trim_eq_self_iff.2 ⟨hstart, hend⟩
      rw [htrim] at hr
      exact .last hr
  | cons r' rs ih =>
      cases hrs with
      | @cons _ c' _ cs' hr' hrs =>
          obtain ⟨b, hb, hfront⟩ := exists_dropBlankEnd r
          obtain ⟨b', hb', hback⟩ := exists_dropBlank r'
          rw [dropBlankEnd_eq_trim hstart] at hfront
          have hjoin : k.sign.intercalate (r :: r' :: rs) =
              r.trim ++ b ++ k.sign ++ b' ++ k.sign.intercalate (r'.dropBlank :: rs) := by
            rw [List.intercalate_cons_cons, hback, intercalate_append_left, ← hback,
              List.append_assoc _ b']
            exact congrArg (· ++ k.sign ++ (b' ++ k.sign.intercalate (r'.dropBlank :: rs))) hfront
          rw [hjoin] at hend ⊢
          have htrim : r'.dropBlank.trim = r'.trim := by
            rw [trim, dropBlank_of_startsSolid (startsSolid_dropBlank r')]
            rfl
          exact .cons hr hb hb' (ih (by rwa [htrim]) hrs (startsSolid_dropBlank r')
            (endsSolid_of_append hend))

/-- A text that was cut at the signs of a connective is one of the operands
that were read from its parts. -/
theorem renders_node {t : Text} {k : Connective} {parts : List Text} {cs : List Condition}
    (hsplit : t.split k.sign none = .ok parts) (hcut : 2 ≤ parts.length)
    (hparts : List.Forall₂ (fun p c => Renders (.operand k) c p) parts cs)
    (htrim : t.trim = t) {place : Place} (hplace : place.Admits k) :
    Renders place (k.node cs) t := by
  obtain ⟨hstart, hend⟩ := trim_eq_self_iff.1 htrim
  obtain ⟨raws, rfl, rfl⟩ := exists_intercalate_of_split k.sign_ne_nil hsplit
  have hlen := hparts.length_eq
  rw [List.forall₂_map_left_iff] at hparts
  refine .node hplace (by omega) ?_
  cases hparts with
  | nil => simp at hcut
  | @cons r c rs cs hr hrs =>
      refine writtenAll_intercalate hr hrs ?_ hend
      cases rs with
      | nil => rwa [List.intercalate_singleton] at hstart
      | cons r' rs =>
          rw [List.intercalate_cons_cons, List.append_assoc] at hstart
          exact startsSolid_of_append hstart

theorem not_isWhole_of_split {t delimiter : Text} {parts : List Text}
    (h : t.split delimiter none = .ok parts) (hcut : 2 ≤ parts.length) :
    ¬t.IsWhole delimiter := by
  rintro ⟨parts', h', hlt⟩
  rw [h] at h'
  cases h'
  omega

theorem renders_of_ofText {t : Text} {c : Condition} (h : ofText t = .ok c)
    (htrim : t.trim = t) {place : Place} (hkeeps : place.Keeps t) : Renders place c t := by
  refine ofText_induct
    (fun t c => t.trim = t → ∀ place : Place, place.Keeps t → Renders place c t)
    ?node ?parens ?leaf h htrim place hkeeps
  case node =>
    intro t k parts cs hor hsplit hcut hparts htrim place hkeeps
    have hplace : place.Admits k := by
      -- Where the sign may not stand the text would be whole for it, and it was cut.
      match place, k, hkeeps with
      | .whole, _, _ => trivial
      | .operand .any, .all, _ => trivial
      | .operand .any, .any, hwhole => exact not_isWhole_of_split hsplit hcut hwhole
      | .operand .all, .any, hwhole => exact not_isWhole_of_split hsplit hcut hwhole.1
      | .operand .all, .all, hwhole => exact not_isWhole_of_split hsplit hcut hwhole.2
    refine renders_node hsplit hcut ?_ htrim hplace
    refine forall₂_of_mem_left hparts fun p hp c ⟨_, ih⟩ => ?_
    obtain ⟨hwhole, hother⟩ := isWhole_of_mem_split k.sign_ne_nil hsplit hp
    refine ih (trim_of_mem_split hsplit hp) (.operand k) ?_
    cases k with
    | any => exact hwhole
    | all => exact ⟨hother orSign (by decide) (hor rfl), hwhole⟩
  case parens =>
    intro t inner c _ _ hparens _ ih htrim place _
    obtain ⟨as, has, hinner⟩ := stripParens_eq_ok_iff.1 hparens
    rw [htrim] at has
    obtain ⟨group, hgroup, rfl⟩ := Option.map_eq_some_iff.1 hinner.symm
    obtain ⟨rfl, -⟩ := (enclosed?_eq_some_iff has).1 hgroup
    obtain ⟨b, b', hb, hb', hmiddle, -, -⟩ := exists_trim group
    have hrender : Renders place c ('(' :: b ++ group.trim ++ b' ++ [')']) :=
      .parens hb hb' (ih (trim_trim group) .whole trivial)
    have heq : '(' :: b ++ group.trim ++ b' ++ [')'] = '(' :: group ++ [')'] := by
      conv => rhs; rw [hmiddle]
      simp
    rwa [heq] at hrender
  case leaf => exact fun _ _ _ hl _ _ _ => .leaf hl

/-! A text of the grammar is read as the condition for which it stands. -/

/-- Whether no mark that ends an operand in a place is among the units. -/
def Place.Silent (as : List Token) : Place → Prop
  | whole => True
  | operand .any => Token.char '|' ∉ as
  | operand .all => Token.char '|' ∉ as ∧ Token.char '&' ∉ as

/-- What is known of a text from which a condition in a place is read. -/
structure Reads (place : Place) (c : Condition) (t : Text) : Prop where
  read : ofText t = .ok c
  nonempty : t ≠ []
  starts : StartsSolid t
  ends : EndsSolid t
  units : ∃ as, Balanced t as ∧ place.Silent as

/-- What is known of a text from which the operands of a node are read. -/
structure ReadsAll (k : Connective) (cs : List Condition) (t : Text) : Prop where
  nonempty : t ≠ []
  starts : StartsSolid t
  ends : EndsSolid t
  parts : ∃ xs, Balanced t ((k.sign.map Token.char).intercalate xs) ∧
    (∀ x ∈ xs, (Place.operand k).Silent x) ∧
    List.Forall₂ (fun x c => ofText (Token.flatten x).trim = .ok c) xs cs

theorem not_occurs_of_not_mem {d : Char} {as : List Token} (h : Token.char d ∉ as) (ds : Text) :
    ¬(d :: ds).map Token.char <:+: as := by
  rintro ⟨front, back, rfl⟩
  exact h (by simp)

theorem isWhole_of_not_mem {d : Char} {t : Text} {as : List Token} (h : Balanced t as)
    (hnot : Token.char d ∉ as) (ds : Text) : t.IsWhole (d :: ds) :=
  (isWhole_iff (List.cons_ne_nil d ds)).2 ⟨as, h, not_occurs_of_not_mem hnot ds⟩

theorem reads_leaf {place : Place} {l : Leaf} {t : Text} (h : Leaf.ofText t = .ok l) :
    Reads place (.leaf l) t := by
  obtain ⟨⟨c, rest, rfl, hc⟩, hend, as, has, hor, hand⟩ := Leaf.shape_of_ofText h
  have hstart : StartsSolid (c :: rest) := startsSolid_cons.2 (isBlank_of_isWord hc)
  have htrim : trim (c :: rest) = c :: rest := trim_eq_self_iff.2 ⟨hstart, hend⟩
  have hparens : stripParens (c :: rest) = .ok none := by
    refine stripParens_eq_ok_iff.2 ⟨as, by rwa [htrim], ?_⟩
    cases henclosed : enclosed? (stretchesFrom [] as) with
    | none => rfl
    | some inner =>
        obtain ⟨heq, -⟩ := (enclosed?_eq_some_iff has).1 henclosed
        obtain rfl : c = '(' := (List.cons.inj heq).1
        exact absurd hc (by decide)
  constructor
  case read =>
    rw [ofText_of_leaf (isWhole_of_not_mem has hor ['|']) (isWhole_of_not_mem has hand ['&'])
      hparens, h]
    rfl
  case nonempty => exact List.cons_ne_nil c rest
  case starts => exact hstart
  case ends => exact hend
  case units =>
    refine ⟨as, has, ?_⟩
    match place with
    | .whole => trivial
    | .operand .any => exact hor
    | .operand .all => exact ⟨hor, hand⟩

theorem reads_parens {place : Place} {c : Condition} {b t b' : Text} (hb : b.allBlank = true)
    (hb' : b'.allBlank = true) (h : Reads .whole c t) :
    Reads place c ('(' :: b ++ t ++ b' ++ [')']) := by
  obtain ⟨as, has, -⟩ := h.units
  have hinner : ∃ bs, Balanced (b ++ t ++ b') bs := by
    rw [List.append_assoc]
    cases b' with
    | nil =>
        rw [List.append_nil]
        exact ⟨_, has.plain_append (forall_plain_of_allBlank hb)⟩
    | cons d b' =>
        have hback := has.append_plain (forall_plain_of_allBlank hb') (List.cons_ne_nil d b') .nil
        rw [List.append_nil] at hback
        exact ⟨_, hback.plain_append (forall_plain_of_allBlank hb)⟩
  obtain ⟨bs, hbs⟩ := hinner
  have heq : '(' :: b ++ t ++ b' ++ [')'] = '(' :: (b ++ t ++ b') ++ [')'] := by simp
  rw [heq]
  have hgroup := Balanced.group (show closer? '(' = some ')' from rfl) hbs .nil
  obtain ⟨hne, hstart, hend⟩ := hgroup.solid_of_literal
  have htrim := trim_eq_self_iff.2 ⟨hstart, hend⟩
  have hparens : stripParens ('(' :: (b ++ t ++ b') ++ [')']) = .ok (some t) := by
    refine stripParens_eq_ok_iff.2 ⟨_, by rwa [htrim], ?_⟩
    rw [(enclosed?_eq_some_iff hgroup).2 ⟨rfl, bs, hbs⟩, Option.map_some,
      trim_eq hb hb' h.starts h.ends]
  constructor
  case read =>
    rw [ofText_of_parens (isWhole_of_not_mem hgroup (by simp) ['|'])
      (isWhole_of_not_mem hgroup (by simp) ['&']) hparens]
    exact h.read
  case nonempty => exact hne
  case starts => exact hstart
  case ends => exact hend
  case units =>
    refine ⟨_, hgroup, ?_⟩
    match place with
    | .whole => trivial
    | .operand .any => simp [Place.Silent]
    | .operand .all => simp [Place.Silent]

theorem readsAll_last {k : Connective} {c : Condition} {t : Text}
    (h : Reads (.operand k) c t) : ReadsAll k [c] t := by
  obtain ⟨as, has, hsilent⟩ := h.units
  have htrim := trim_eq_self_iff.2 ⟨h.starts, h.ends⟩
  refine ⟨h.nonempty, h.starts, h.ends, [as], ?_, ?_, ?_⟩
  · rwa [List.intercalate_singleton]
  · intro x hx
    rwa [List.mem_singleton.1 hx]
  · refine .cons ?_ .nil
    rw [has.flatten, htrim]
    exact h.read

theorem silent_append {as bs : List Token} {k : Connective} (has : (Place.operand k).Silent as)
    (hbs : (Place.operand k).Silent bs) : (Place.operand k).Silent (as ++ bs) := by
  cases k with
  | any => exact fun hmem => (List.mem_append.1 hmem).elim has hbs
  | all =>
      exact ⟨fun hmem => (List.mem_append.1 hmem).elim has.1 hbs.1,
        fun hmem => (List.mem_append.1 hmem).elim has.2 hbs.2⟩

theorem silent_of_allBlank {b : Text} (hb : b.allBlank = true) (k : Connective) :
    (Place.operand k).Silent (b.map .char) := by
  have hnot {d : Char} (hd : isBlank d = false) : Token.char d ∉ b.map Token.char := by
    intro hmem
    obtain ⟨c, hc, heq⟩ := List.mem_map.1 hmem
    cases heq
    exact not_mem_of_allBlank hb hd hc
  cases k with
  | any => exact hnot (by decide)
  | all => exact ⟨hnot (by decide), hnot (by decide)⟩

theorem readsAll_cons {k : Connective} {c : Condition} {cs : List Condition} {s b b' t : Text}
    (hs : Reads (.operand k) c s) (hb : b.allBlank = true) (hb' : b'.allBlank = true)
    (ht : ReadsAll k cs t) : ReadsAll k (c :: cs) (s ++ b ++ k.sign ++ b' ++ t) := by
  obtain ⟨as, has, hsilent⟩ := hs.units
  obtain ⟨xs, hxs, hsilents, hread⟩ := ht.parts
  have hplain : ∀ c ∈ b ++ k.sign ++ b', isPlain c = true := by
    intro c hc
    rcases List.mem_append.1 hc with hc | hc
    · rcases List.mem_append.1 hc with hc | hc
      · exact forall_plain_of_allBlank hb c hc
      · have hsign : ∀ c ∈ k.sign, isPlain c = true := by cases k <;> decide
        exact hsign c hc
    · exact forall_plain_of_allBlank hb' c hc
  have hne : b ++ k.sign ++ b' ≠ [] := by
    have := k.sign_ne_nil
    simp [this]
  have hassoc : s ++ b ++ k.sign ++ b' ++ t = s ++ (b ++ k.sign ++ b' ++ t) := by simp
  rw [hassoc]
  cases hread with
  | nil => exact absurd (eq_nil_of_balanced hxs) ht.nonempty
  | @cons x c' xs cs hx hread =>
      -- The blanks before the sign go to the part on its left and those behind it to the part on
      -- its right; both are trimmed away.
      have hbalanced := has.append_plain hplain hne hxs
      refine ⟨by simp [hs.nonempty], hs.starts.append hs.nonempty, ?_,
        (as ++ b.map .char) :: (b'.map .char ++ x) :: xs, ?_, ?_, ?_⟩
      · rw [← hassoc]
        exact ht.ends.append ht.nonempty
      · rw [List.intercalate_cons_cons, intercalate_append_left]
        simpa only [List.map_append, List.append_assoc] using hbalanced
      · intro y hy
        rcases List.mem_cons.1 hy with rfl | hy
        · exact silent_append hsilent (silent_of_allBlank hb k)
        · rcases List.mem_cons.1 hy with rfl | hy
          · exact silent_append (silent_of_allBlank hb' k) (hsilents x List.mem_cons_self)
          · exact hsilents y (List.mem_cons_of_mem x hy)
      · refine .cons ?_ (.cons ?_ hread)
        · have htrim := trim_eq allBlank_nil hb hs.starts hs.ends
          rw [flatten_append, flatten_chars, has.flatten]
          rw [List.nil_append] at htrim
          rw [htrim]
          exact hs.read
        · have htrim := trim_append_blank hb' allBlank_nil (Token.flatten x)
          rw [List.append_nil] at htrim
          rw [flatten_append, flatten_chars, htrim]
          exact hx

theorem split_of_readsAll {k : Connective} {cs : List Condition} {t : Text}
    (h : ReadsAll k cs t) : ∃ parts, t.split k.sign none = .ok parts ∧
      parts.length = cs.length ∧ parts.mapM ofText = .ok cs := by
  obtain ⟨xs, hxs, hsilent, hread⟩ := h.parts
  have hne : xs ≠ [] := by
    rintro rfl
    exact h.nonempty (eq_nil_of_balanced hxs)
  have hcut : cutUnits k.sign none [] 0 ((k.sign.map Token.char).intercalate xs) = xs := by
    cases k with
    | any => exact cutUnits_intercalate hne hsilent
    | all => exact cutUnits_intercalate hne fun x hx => (hsilent x hx).2
  have hsplit : t.split k.sign none = .ok
      ((cutUnits k.sign none [] 0 ((k.sign.map Token.char).intercalate xs)).map
        fun x => (Token.flatten x).trim) := (split_eq_ok_iff k.sign_ne_nil).2 ⟨_, hxs, rfl⟩
  rw [hcut] at hsplit
  refine ⟨_, hsplit, ?_, Except.mapM_eq_ok_iff.2 (List.forall₂_map_left_iff.2 hread)⟩
  rw [List.length_map]
  exact hread.length_eq

theorem reads_node {place : Place} {k : Connective} {cs : List Condition} {t : Text}
    (hplace : place.Admits k) (hcut : 2 ≤ cs.length) (h : ReadsAll k cs t) :
    Reads place (k.node cs) t := by
  obtain ⟨parts, hsplit, hlen, hread⟩ := split_of_readsAll h
  obtain ⟨xs, hxs, hsilent, -⟩ := h.parts
  -- Without `||` in its parts a chain of `&&` has none at all.
  have hor : k = .all → Token.char '|' ∉ (k.sign.map Token.char).intercalate xs := by
    rintro rfl hmem
    rcases mem_intercalate hmem with hmem | ⟨x, hx, hmem⟩
    · exact absurd hmem (by decide)
    · exact (hsilent x hx).1 hmem
  constructor
  case read =>
    exact ofText_of_node (fun hk => isWhole_of_not_mem hxs (hor hk) ['|']) hsplit (hlen ▸ hcut)
      hread
  case nonempty => exact h.nonempty
  case starts => exact h.starts
  case ends => exact h.ends
  case units =>
    refine ⟨_, hxs, ?_⟩
    match place, k, hplace with
    | .whole, _, _ => trivial
    | .operand .any, .all, _ => exact hor rfl

mutual

theorem reads_of_renders {place : Place} {c : Condition} {t : Text} :
    Renders place c t → Reads place c t
  | .leaf h => reads_leaf h
  | .node hplace hcut h => reads_node hplace hcut (readsAll_of_writtenAll h)
  | .parens hb hb' h => reads_parens hb hb' (reads_of_renders h)

theorem readsAll_of_writtenAll {k : Connective} {cs : List Condition} {t : Text} :
    WrittenAll IsRead k cs t → ReadsAll k cs t
  | .last h => readsAll_last (reads_of_renders h)
  | .cons hs hb hb' ht => readsAll_cons (reads_of_renders hs) hb hb' (readsAll_of_writtenAll ht)

end

/-- Reading accepts exactly the texts of the grammar. -/
theorem ofText_eq_ok_iff_renders {t : Text} (htrim : t.trim = t) {c : Condition} :
    ofText t = .ok c ↔ Renders .whole c t :=
  ⟨fun h => renders_of_ofText h htrim trivial, fun h => (reads_of_renders h).read⟩

/-- A chain of `||` is one node, and an operand in brackets another. -/
def nested : Condition :=
  .any [.all [.leaf ⟨['a'], .compare .lt (.integer 1)⟩,
      .leaf ⟨['b'], .compare .eq (.string "on".toList)⟩],
    .any [.leaf ⟨['c'], .compare .eq (.string "|| (".toList)⟩,
      .leaf ⟨['d'], .compare .gt (.integer 2)⟩],
    .leaf ⟨['e'], .negation (.compare .eq (.integer 3))⟩]

def nestedText : Text := "a < 1 && b.on||( c == \"|| (\" || d > 2 ) || ((not e == 3))".toList

theorem ofText_nested_iff_renders : nestedText.trim = nestedText ∧
    ofText nestedText = .ok nested ∧ Renders .whole nested nestedText :=
  have htrim : nestedText.trim = nestedText := by decide +kernel
  have hread : ofText nestedText = .ok nested := by decide +kernel
  ⟨htrim, hread, (ofText_eq_ok_iff_renders htrim).1 hread⟩

end Overlay.Condition
