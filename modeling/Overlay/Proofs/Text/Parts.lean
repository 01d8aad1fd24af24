import Overlay.Proofs.Text.Leading
import Overlay.Proofs.Text.Split

/-!
Parts of a balanced text: what trimming leaves, what stands in a pair of
brackets, and what stands between two delimiters. All of these are balanced
again, and what does not occur in the whole does not occur in them.
-/

namespace Overlay.Text

/-- Whether a character is neither a bracket nor a quote nor a backslash. -/
def isPlain (c : Char) : Bool :=
  c != '"' && c != '\\' && (closer? c).isNone && !isCloser c

theorem isPlain_iff {c : Char} :
    isPlain c = true ↔ c ≠ '"' ∧ c ≠ '\\' ∧ closer? c = none ∧ isCloser c = false := by
  simp [isPlain, and_assoc]

/-- A character with a property that no bracket, quote or backslash has is
plain. -/
theorem isPlain_of {p : Char → Bool} {c : Char} (h : p c = true)
    (hnot : ∀ d ∈ ['"', '\\', '(', ')', '[', ']'], p d = false) : isPlain c = true := by
  have hne {d : Char} (hd : d ∈ ['"', '\\', '(', ')', '[', ']']) : c ≠ d := by
    rintro rfl
    rw [hnot c hd] at h
    cases h
  refine isPlain_iff.2 ⟨hne (by decide), hne (by decide), ?_, ?_⟩
  · unfold closer?
    rw [if_neg (hne (by decide)), if_neg (hne (by decide))]
  · simp [isCloser, hne]

theorem isPlain_of_isBlank {c : Char} (h : isBlank c = true) : isPlain c = true :=
  isPlain_of h (by decide)

theorem isPlain_of_isWord {c : Char} (h : isWord c = true) : isPlain c = true :=
  isPlain_of h (by decide)

/-- Whether every character stands for itself and none is blank. -/
def IsSolid (t : Text) : Prop := ∀ c ∈ t, isPlain c = true ∧ isBlank c = false

instance (t : Text) : Decidable (IsSolid t) :=
  inferInstanceAs (Decidable (∀ c ∈ t, isPlain c = true ∧ isBlank c = false))

theorem isSolid_of_isName {t : Text} (h : t.isName = true) : IsSolid t := by
  intro c hc
  have hword := (isName_iff.1 h).2 c hc
  exact ⟨isPlain_of_isWord hword, isBlank_of_isWord hword⟩

theorem Balanced.cons_plain {c : Char} {t : Text} {as : List Token} (hc : isPlain c = true)
    (h : Balanced t as) : Balanced (c :: t) (.char c :: as) := by
  obtain ⟨hquote, hback, ho, hcloser⟩ := isPlain_iff.1 hc
  exact .char hquote ho hcloser (fun heq => absurd heq hback) h

theorem Balanced.plain_append {u t : Text} {as : List Token} (hu : ∀ c ∈ u, isPlain c = true)
    (h : Balanced t as) : Balanced (u ++ t) (u.map .char ++ as) := by
  induction u with
  | nil => exact h
  | cons c u ih =>
      exact .cons_plain (hu c List.mem_cons_self) (ih fun d hd => hu d (List.mem_cons_of_mem _ hd))

theorem balanced_of_plain {u : Text} (hu : ∀ c ∈ u, isPlain c = true) :
    Balanced u (u.map .char) := by
  have h := Balanced.plain_append hu .nil
  rwa [List.append_nil, List.append_nil] at h

theorem quoted_of_plain {t : Text} (ht : ∀ c ∈ t, isPlain c = true) :
    Quoted t (t.map .char) := by
  induction t with
  | nil => exact .nil
  | cons c t ih =>
      obtain ⟨hquote, hback, -, -⟩ := isPlain_iff.1 (ht c List.mem_cons_self)
      exact .char hquote (fun heq => absurd heq hback)
        (ih fun d hd => ht d (List.mem_cons_of_mem c hd))

theorem Balanced.append_plain {s u t : Text} {as bs : List Token} (hs : Balanced s as)
    (hu : ∀ c ∈ u, isPlain c = true) (hne : u ≠ []) (ht : Balanced t bs) :
    Balanced (s ++ (u ++ t)) (as ++ (u.map .char ++ bs)) := by
  refine hs.append (ht.plain_append hu) fun _ hhead => ?_
  obtain ⟨c, rest, rfl⟩ := List.exists_cons_of_ne_nil hne
  obtain rfl : c = '"' := by simpa using hhead
  exact absurd (hu _ List.mem_cons_self) (by decide)

theorem forall_plain_of_allBlank {b : Text} (hb : b.allBlank = true) :
    ∀ c ∈ b, isPlain c = true :=
  fun c hc => isPlain_of_isBlank (allBlank_iff.1 hb c hc)

theorem Balanced.of_isLiteral {l : Text} (h : IsLiteral l) : Balanced l [.literal l] := by
  have hbalanced := Balanced.literal h .nil
  rwa [List.append_nil] at hbalanced

theorem eq_nil_of_balanced {t : Text} (h : Balanced t []) : t = [] := by
  cases h
  rfl

theorem Balanced.eq_literal {t g : Text} (h : Balanced t [.literal g]) :
    t = g ∧ (IsLiteral g ∨ ∃ o c body bs, closer? o = some c ∧ Balanced body bs ∧
      g = o :: body ++ [c]) := by
  cases h with
  | literal hl ht =>
      obtain rfl := eq_nil_of_balanced ht
      exact ⟨List.append_nil _, .inl hl⟩
  | group ho hbody ht =>
      obtain rfl := eq_nil_of_balanced ht
      exact ⟨rfl, .inr ⟨_, _, _, _, ho, hbody, rfl⟩⟩

/-- A group or a literal has no blank at its ends. -/
theorem Balanced.solid_of_literal {t g : Text} (h : Balanced t [.literal g]) :
    g ≠ [] ∧ StartsSolid g ∧ EndsSolid g := by
  obtain ⟨-, ⟨body, -, rfl⟩ | ⟨o, c, body, bs, ho, -, rfl⟩⟩ := h.eq_literal
  · exact ⟨List.cons_ne_nil _ _, startsSolid_cons.2 (by decide), endsSolid_concat.2 (by decide)⟩
  · obtain ⟨hopen, hclose⟩ := isBlank_of_closer? ho
    exact ⟨List.cons_ne_nil _ _, startsSolid_cons.2 hopen, endsSolid_concat.2 hclose⟩

/-- A plain character at the front is a unit. -/
theorem Balanced.of_cons_plain {c : Char} {t : Text} {as : List Token} (hc : isPlain c = true)
    (h : Balanced (c :: t) as) : ∃ bs, as = .char c :: bs ∧ Balanced t bs := by
  obtain ⟨hquote, -, ho, -⟩ := isPlain_iff.1 hc
  generalize hu : c :: t = u at h
  cases h with
  | nil => cases hu
  | char _ _ _ _ h =>
      cases hu
      exact ⟨_, rfl, h⟩
  | literal hl _ =>
      obtain ⟨body, -, rfl⟩ := hl
      cases hu
      exact absurd rfl hquote
  | group ho' _ _ =>
      cases hu
      rw [ho] at ho'
      cases ho'

theorem Balanced.of_blank_append {b t : Text} {as : List Token} (hb : b.allBlank = true)
    (h : Balanced (b ++ t) as) : ∃ bs, as = b.map .char ++ bs ∧ Balanced t bs := by
  induction b generalizing as with
  | nil => exact ⟨as, rfl, h⟩
  | cons c b ih =>
      obtain ⟨hc, hb⟩ := allBlank_cons.1 hb
      obtain ⟨bs, rfl, hbs⟩ := h.of_cons_plain (isPlain_of_isBlank hc)
      obtain ⟨cs, rfl, hcs⟩ := ih hb hbs
      exact ⟨cs, rfl, hcs⟩

theorem Balanced.of_concat_blank {c : Char} {t : Text} {as : List Token}
    (hc : isBlank c = true) (h : Balanced (t ++ [c]) as) :
    ∃ bs, as = bs ++ [.char c] ∧ Balanced t bs := by
  rcases List.eq_nil_or_concat as with rfl | ⟨bs, z, rfl⟩
  · have hnil := eq_nil_of_balanced h
    simp at hnil
  · rw [List.concat_eq_append] at h ⊢
    obtain ⟨u, v, heq, hu, hv⟩ := h.split
    cases z with
    | char d =>
        cases hv with
        | char _ _ _ _ hnil =>
            obtain rfl := eq_nil_of_balanced hnil
            obtain ⟨rfl, hcd⟩ := List.append_inj' heq rfl
            cases hcd
            exact ⟨bs, rfl, hu⟩
    | literal g =>
        obtain ⟨hne, -, hend⟩ := hv.solid_of_literal
        obtain ⟨rfl, -⟩ := hv.eq_literal
        have hlast := congrArg List.getLast? heq
        rw [List.getLast?_concat, List.getLast?_append_of_ne_nil _ hne] at hlast
        rw [hend c hlast.symm] at hc
        cases hc

theorem Balanced.of_append_blank {b t : Text} {as : List Token} (hb : b.allBlank = true)
    (h : Balanced (t ++ b) as) : ∃ bs, as = bs ++ b.map .char ∧ Balanced t bs := by
  induction b generalizing t with
  | nil => exact ⟨as, (List.append_nil as).symm, by rwa [List.append_nil] at h⟩
  | cons c b ih =>
      obtain ⟨hc, hb⟩ := allBlank_cons.1 hb
      have hassoc : Balanced ((t ++ [c]) ++ b) as := by rwa [List.append_assoc]
      obtain ⟨bs, rfl, hbs⟩ := ih hb hassoc
      obtain ⟨cs, rfl, hcs⟩ := hbs.of_concat_blank hc
      exact ⟨cs, by simp, hcs⟩

/-- Trimming takes away units at the ends. -/
theorem Balanced.trim {t : Text} {as : List Token} (h : Balanced t as) :
    ∃ bs, bs <:+: as ∧ Balanced t.trim bs := by
  obtain ⟨b, b', hb, hb', ht, -, -⟩ := exists_trim t
  rw [ht, List.append_assoc] at h
  obtain ⟨bs, rfl, hbs⟩ := h.of_blank_append hb
  obtain ⟨cs, rfl, hcs⟩ := hbs.of_append_blank hb'
  exact ⟨cs, ⟨b.map .char, b'.map .char, List.append_assoc _ _ _⟩, hcs⟩

theorem Balanced.piece {t : Text} {as bs : List Token} (h : Balanced t as)
    (hocc : bs <:+: as) : Balanced (Token.flatten bs) bs := by
  obtain ⟨front, back, rfl⟩ := hocc
  obtain ⟨u, v, rfl, hu, -⟩ := h.split
  obtain ⟨u', v', rfl, -, hv⟩ := hu.split
  rwa [hv.flatten]

/-- Whether a text has no outside occurrence of a delimiter. -/
def IsWhole (t delimiter : Text) : Prop :=
  ∃ parts, t.split delimiter none = .ok parts ∧ parts.length < 2

theorem isWhole_iff {t delimiter : Text} (hne : delimiter ≠ []) :
    t.IsWhole delimiter ↔ ∃ as, Balanced t as ∧ ¬delimiter.map Token.char <:+: as := by
  constructor
  · rintro ⟨parts, hparts, hlen⟩
    obtain ⟨as, has, rfl⟩ := (split_eq_ok_iff hne).1 hparts
    obtain ⟨x, xs, hxs⟩ := List.exists_cons_of_ne_nil (cutUnits_ne_nil delimiter none [] 0 as)
    obtain ⟨⟨y, -, hx, hnot⟩, -⟩ := infix_of_cutUnits hne hxs
    have hjoin := intercalate_cutUnits hne none [] 0 as
    change (List.map _ (cutUnits delimiter none [] 0 as)).length < 2 at hlen
    rw [hxs, List.length_map, List.length_cons] at hlen
    obtain rfl : xs = [] := List.length_eq_zero_iff.1 (by omega)
    rw [hxs, List.intercalate_singleton, List.reverse_nil, List.nil_append, List.drop_zero] at hjoin
    refine ⟨as, has, ?_⟩
    rw [← hjoin, hx]
    exact hnot
  · rintro ⟨as, has, hnot⟩
    refine ⟨_, (split_eq_ok_iff hne).2 ⟨as, has, rfl⟩, ?_⟩
    change (List.map _ (cutUnits delimiter none [] 0 as)).length < 2
    rw [cutUnits_of_not_occurs hnot]
    exact Nat.lt_succ_self 1

/-- The delimiter does not occur in the parts that it separates, nor does
anything that did not occur in the whole. -/
theorem isWhole_of_mem_split {t delimiter p : Text} (hne : delimiter ≠ []) {parts : List Text}
    (h : t.split delimiter none = .ok parts) (hp : p ∈ parts) :
    p.IsWhole delimiter ∧ ∀ other, other ≠ [] → t.IsWhole other → p.IsWhole other := by
  obtain ⟨as, has, rfl⟩ := (split_eq_ok_iff hne).1 h
  obtain ⟨x, hx, rfl⟩ := List.mem_map.1 hp
  obtain ⟨hpiece, hnot⟩ := infix_of_mem_cutUnits hne hx
  obtain ⟨ys, hys, hbalanced⟩ := (has.piece hpiece).trim
  refine ⟨(isWhole_iff hne).2 ⟨ys, hbalanced, fun hocc => hnot (hocc.trans hys)⟩, ?_⟩
  intro other hother hwhole
  obtain ⟨bs, hbs, hnot'⟩ := (isWhole_iff hother).1 hwhole
  obtain rfl := has.unique hbs
  exact (isWhole_iff hother).2
    ⟨ys, hbalanced, fun hocc => hnot' ((hocc.trans hys).trans hpiece)⟩

theorem trim_of_mem_split {t delimiter p : Text} {limit : Option Nat} {parts : List Text}
    (h : t.split delimiter limit = .ok parts) (hp : p ∈ parts) : p.trim = p := by
  obtain ⟨ss, -, h⟩ := Except.bind_eq_ok_iff.1 h
  obtain rfl := Except.pure_eq_ok_iff.1 h
  obtain ⟨q, -, rfl⟩ := List.mem_map.1 hp
  exact trim_trim q

theorem intercalate_eq_flatten (delimiter : Text) (xs : List (List Token)) :
    delimiter.intercalate (xs.map Token.flatten) =
      Token.flatten ((delimiter.map Token.char).intercalate xs) := by
  induction xs with
  | nil => rfl
  | cons x xs ih =>
      cases xs with
      | nil => simp
      | cons y ys =>
          rw [List.map_cons, List.map_cons, List.intercalate_cons_cons, List.intercalate_cons_cons,
            flatten_append, flatten_append, flatten_chars, ← ih, List.map_cons]

/-- The untrimmed parts make up the text. -/
theorem exists_intercalate_of_split {t delimiter : Text} (hne : delimiter ≠ []) {limit : Option Nat}
    {parts : List Text} (h : t.split delimiter limit = .ok parts) :
    ∃ raws, t = delimiter.intercalate raws ∧ parts = raws.map trim := by
  obtain ⟨as, has, rfl⟩ := (split_eq_ok_iff hne).1 h
  refine ⟨(cutUnits delimiter (limit.map (· - 1)) [] 0 as).map Token.flatten, ?_, ?_⟩
  · rw [intercalate_eq_flatten, intercalate_cutUnits hne]
    exact has.flatten.symm
  · rw [List.map_map]
    rfl

theorem stretchesFrom_eq_singleton_iff {as : List Token} {g : Text} :
    stretchesFrom [] as = [.inside g] ↔ as = [.literal g] := by
  constructor
  · intro h
    have htokens := congrArg tokens h
    rwa [tokens_stretchesFrom] at htokens
  · rintro rfl
    rfl

/-- Round brackets enclose a whole text when it is a balanced text between
them. -/
theorem enclosed?_eq_some_iff {t inner : Text} {as : List Token} (h : Balanced t as) :
    enclosed? (stretchesFrom [] as) = some inner ↔
      t = '(' :: inner ++ [')'] ∧ ∃ bs, Balanced inner bs := by
  constructor
  · intro henclosed
    unfold enclosed? at henclosed
    split at henclosed
    · next g hg =>
      obtain rfl := stretchesFrom_eq_singleton_iff.1 hg
      obtain ⟨rfl, hform⟩ := h.eq_literal
      split at henclosed
      · next hround =>
        cases henclosed
        rcases hform with ⟨body, -, rfl⟩ | ⟨o, c, body, bs, ho, hbody, rfl⟩
        · exact absurd hround.1 (by simp)
        · obtain rfl : o = '(' := by simpa using hround.1
          obtain rfl : c = ')' := by simpa [closer?, eq_comm] using ho
          have hinner : inner ('(' :: body ++ [')']) = body := by simp [inner]
          rw [hinner]
          exact ⟨rfl, bs, hbody⟩
      · cases henclosed
    · cases henclosed
  · rintro ⟨rfl, bs, hbs⟩
    have hgroup := Balanced.group (show closer? '(' = some ')' from rfl) hbs .nil
    obtain rfl := h.unique hgroup
    have hround : ('(' :: inner ++ [')']).head? = some '(' ∧
        ('(' :: inner ++ [')']).getLast? = some ')' := ⟨rfl, List.getLast?_concat⟩
    rw [stretchesFrom_eq_singleton_iff.2 rfl, enclosed?, if_pos hround]
    simp [Text.inner]

theorem stripParens_eq_ok_iff {t : Text} {o : Option Text} :
    t.stripParens = .ok o ↔
      ∃ as, Balanced t.trim as ∧ o = (enclosed? (stretchesFrom [] as)).map trim := by
  simp only [stripParens, Except.bind_eq_ok_iff, Except.pure_eq_ok_iff,
    brackets_eq_ok_iff]
  constructor
  · rintro ⟨ss, ⟨as, has, rfl⟩, rfl⟩
    exact ⟨as, has, rfl⟩
  · rintro ⟨as, has, rfl⟩
    exact ⟨_, ⟨as, has, rfl⟩, rfl⟩

end Overlay.Text
