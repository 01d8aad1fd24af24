import Overlay.Proofs.Call
import Overlay.Proofs.Condition.Connective
import Overlay.Proofs.Text.Parts

/-!
Reading conditions, as equations without the bookkeeping of termination and as
rules of induction: what holds of every leaf and every condition that was read
follows from one case for each form. The first use of the rules is that a
condition that was read is a tree whose nodes have at least two parts and
whose leaves test data with names.
-/

namespace Overlay

namespace Leaf

theorem ofComparison_eq_ok_iff {t : Text} {l : Leaf} :
    ofComparison t = .ok l ↔ ∃ name sign operand threshold,
      comparison? t = some (name, sign, operand) ∧ Literal.ofText operand = .ok threshold ∧
        l = ⟨name, .compare sign threshold⟩ := by
  unfold ofComparison
  split
  · next h => simp [h]
  · next name sign operand h =>
    simp only [Except.bind_eq_ok_iff, Except.pure_eq_ok_iff, h, Option.some.injEq,
      Prod.mk.injEq]
    constructor
    · rintro ⟨threshold, hthreshold, rfl⟩
      exact ⟨name, sign, operand, threshold, ⟨rfl, rfl, rfl⟩, hthreshold, rfl⟩
    · rintro ⟨_, _, _, threshold, ⟨rfl, rfl, rfl⟩, hthreshold, rfl⟩
      exact ⟨threshold, hthreshold, rfl⟩

/-- What holds of the leaves of each form holds of every leaf that was read.
The forms are tried in the order of the cases. -/
theorem ofText_induct (P : Text → Leaf → Prop)
    (state : ∀ {t l}, ofEventState? t = some l → P t l)
    (comparison : ∀ {t l}, ofEventState? t = none → ofComparison t = .ok l → P t l)
    (like : ∀ {t l}, ofEventState? t = none → comparison? t = none →
      Method.like.isCalledBy t = true → ofLike t = .ok l → P t l)
    (range : ∀ {t l}, ofEventState? t = none → comparison? t = none →
      Method.like.isCalledBy t = false → Method.range.isCalledBy t = true →
      ofRange t = .ok l → P t l)
    (negation : ∀ {t inner l}, ofEventState? t = none → comparison? t = none →
      Method.like.isCalledBy t = false → Method.range.isCalledBy t = false →
      negated? t = some inner → ofText inner = .ok l → P inner l → P t l.negate)
    {t : Text} {l : Leaf} (h : ofText t = .ok l) : P t l := by
  fun_induction ofText t generalizing l with
  | case1 t l' hstate =>
      cases h
      exact state hstate
  | case2 t hstate hcomparison => exact comparison hstate h
  | case3 t hstate hcomparison hlike =>
      exact like hstate (by simpa using hcomparison) hlike h
  | case4 t hstate hcomparison hlike hrange =>
      exact range hstate (by simpa using hcomparison) (by simpa using hlike) hrange h
  | case5 t hstate hcomparison hlike hrange inner hinner ih =>
      obtain ⟨l', hl', rfl⟩ := Except.map_eq_ok_iff.1 h
      exact negation hstate (by simpa using hcomparison) (by simpa using hlike)
        (by simpa using hrange) hinner hl' (ih hl')
  | case6 => cases h

/-- The state of an event is a name, a point and one of the two words. -/
theorem ofEventState?_eq_some_iff {t : Text} {l : Leaf} :
    ofEventState? t = some l ↔ ∃ name state, name.isName = true ∧
      (state = "on".toList ∨ state = "off".toList) ∧ t = name ++ '.' :: state ∧
        l = ⟨name, .compare .eq (.string state)⟩ := by
  simp only [ofEventState?, Option.bind_eq_bind, Option.bind_eq_some_iff, Prod.exists,
    Text.leadingName?_eq_some_iff, Text.dropPrefix?_eq_some_iff, Option.ite_none_right_eq_some,
    Option.some.injEq]
  constructor
  · rintro ⟨name, rest, ⟨hname, rfl, -⟩, state, rfl, hstate, rfl⟩
    exact ⟨name, state, hname, hstate, rfl, rfl⟩
  · rintro ⟨name, state, hname, hstate, rfl, rfl⟩
    exact ⟨name, '.' :: state, ⟨hname, rfl, Text.endsWord_cons.2 (by decide)⟩, state, rfl, hstate,
      rfl⟩

theorem isName_of_ofEventState? {t : Text} {l : Leaf} (h : ofEventState? t = some l) :
    l.dataName.isName = true := by
  obtain ⟨name, state, hname, -, -, rfl⟩ := ofEventState?_eq_some_iff.1 h
  exact hname

theorem isName_of_comparison? {t name operand : Text} {sign : Sign}
    (h : comparison? t = some (name, sign, operand)) : name.isName = true := by
  simp only [comparison?, Option.bind_eq_bind, Option.bind_eq_some_iff, Prod.exists] at h
  obtain ⟨name', rest, hname, sign', operand', -, h⟩ := h
  cases h
  exact Text.isName_of_leadingName? hname

theorem isName_of_ofLike {t : Text} {l : Leaf} (h : ofLike t = .ok l) :
    l.dataName.isName = true := by
  simp only [ofLike, Except.bind_eq_ok_iff, Except.pure_eq_ok_iff] at h
  obtain ⟨args, hargs, name, hname, source, -, pattern, -, rfl⟩ := h
  exact Method.isName_of_call hargs hname

theorem ofRange_eq_ok_iff {t : Text} {l : Leaf} :
    ofRange t = .ok l ↔ ∃ args name low high,
      Method.range.call t [[.dataName], ArgumentType.literal, ArgumentType.literal] = .ok args ∧
      Argument.nth Argument.text? args 0 = .ok name ∧
      Argument.nth Argument.literal? args 1 = .ok low ∧
      Argument.nth Argument.literal? args 2 = .ok high ∧
      low.sameType high = true ∧ inOrder low high = true ∧ l = ⟨name, .range low high⟩ := by
  simp only [ofRange, Except.bind_eq_ok_iff]
  constructor
  · rintro ⟨args, hargs, low, hlow, high, hhigh, h⟩
    split at h
    · cases h
    · next htype =>
      split at h
      · cases h
      · next horder =>
        simp only [Except.bind_eq_ok_iff, Except.pure_eq_ok_iff] at h
        obtain ⟨name, hname, rfl⟩ := h
        exact ⟨args, name, low, high, hargs, hname, hlow, hhigh, by simpa using htype,
          by simpa using horder, rfl⟩
  · rintro ⟨args, name, low, high, hargs, hname, hlow, hhigh, htype, horder, rfl⟩
    refine ⟨args, hargs, low, hlow, high, hhigh, ?_⟩
    simp only [htype, horder, Bool.not_true, Bool.false_eq_true, if_false, hname]
    rfl

theorem isName_of_ofRange {t : Text} {l : Leaf} (h : ofRange t = .ok l) :
    l.dataName.isName = true := by
  obtain ⟨args, name, low, high, hargs, hname, -, -, -, -, rfl⟩ := ofRange_eq_ok_iff.1 h
  exact Method.isName_of_call hargs hname

/-- A leaf that was read tests a datum with a name. -/
theorem isName_of_ofText {t : Text} {l : Leaf} (h : ofText t = .ok l) :
    l.dataName.isName = true := by
  refine ofText_induct (fun _ l => l.dataName.isName = true)
    ?state ?comparison ?like ?range ?negation h
  case state => exact isName_of_ofEventState?
  case comparison =>
    intro t l _ h
    obtain ⟨name, sign, operand, threshold, hname, -, rfl⟩ := ofComparison_eq_ok_iff.1 h
    exact isName_of_comparison? hname
  case like => exact fun _ _ _ h => isName_of_ofLike h
  case range => exact fun _ _ _ _ h => isName_of_ofRange h
  case negation => exact fun _ _ _ _ _ _ ih => ih

end Leaf

namespace Condition

theorem ofText_eq (t : Text) : ofText t =
    match t.split orSign none with
    | .error cause => .error cause
    | .ok parts =>
      if 2 ≤ parts.length then (parts.mapM ofText).map any
      else
        match t.split andSign none with
        | .error cause => .error cause
        | .ok parts =>
          if 2 ≤ parts.length then (parts.mapM ofText).map all
          else
            match t.stripParens with
            | .error cause => .error cause
            | .ok (some inner) => ofText inner
            | .ok none => (Leaf.ofText t).map leaf := by
  rw [ofText]
  simp only [List.mapM_subtype, List.unattach_attach]
  split <;> rename_i h <;> simp only [h]
  split
  · rfl
  · split <;> rename_i h <;> simp only [h]
    split
    · rfl
    · split <;> rename_i h <;> simp only [h]

/-- Only a text without `||` is cut at `&&`. -/
theorem ofText_of_node {t : Text} {k : Connective} {parts : List Text} {cs : List Condition}
    (hor : k = .all → t.IsWhole orSign) (hsplit : t.split k.sign none = .ok parts)
    (hcut : 2 ≤ parts.length) (h : parts.mapM ofText = .ok cs) :
    ofText t = .ok (k.node cs) := by
  cases k with
  | any =>
      change t.split orSign none = .ok parts at hsplit
      rw [ofText_eq, hsplit]
      simp only [if_pos hcut, h, Except.map_ok]
      rfl
  | all =>
      obtain ⟨orParts, horParts, hlt⟩ := hor rfl
      change t.split andSign none = .ok parts at hsplit
      rw [ofText_eq, horParts]
      simp only [if_neg (Nat.not_le.2 hlt), hsplit, if_pos hcut, h, Except.map_ok]
      rfl

/-- A text that is not cut is a condition in brackets or a leaf. -/
theorem ofText_of_isWhole {t : Text} (hor : t.IsWhole orSign) (hand : t.IsWhole andSign) :
    ofText t =
      match t.stripParens with
      | .error cause => .error cause
      | .ok (some inner) => ofText inner
      | .ok none => (Leaf.ofText t).map leaf := by
  obtain ⟨parts, hparts, hlt⟩ := hor
  obtain ⟨parts', hparts', hlt'⟩ := hand
  rw [ofText_eq, hparts]
  simp only [hparts', if_neg (Nat.not_le.2 hlt), if_neg (Nat.not_le.2 hlt')]

theorem ofText_of_parens {t inner : Text} (hor : t.IsWhole orSign) (hand : t.IsWhole andSign)
    (h : t.stripParens = .ok (some inner)) : ofText t = ofText inner := by
  rw [ofText_of_isWhole hor hand, h]

theorem ofText_of_leaf {t : Text} (hor : t.IsWhole orSign) (hand : t.IsWhole andSign)
    (h : t.stripParens = .ok none) : ofText t = (Leaf.ofText t).map leaf := by
  rw [ofText_of_isWhole hor hand, h]

/-- What holds of the conditions of each form holds of every condition that was
read. -/
theorem ofText_induct (P : Text → Condition → Prop)
    (node : ∀ {t} {k : Connective} {parts cs}, (k = .all → t.IsWhole orSign) →
      t.split k.sign none = .ok parts → 2 ≤ parts.length →
      List.Forall₂ (fun p c => ofText p = .ok c ∧ P p c) parts cs → P t (k.node cs))
    (parens : ∀ {t inner c}, t.IsWhole orSign → t.IsWhole andSign →
      t.stripParens = .ok (some inner) → ofText inner = .ok c → P inner c → P t c)
    (leaf : ∀ {t l}, t.IsWhole orSign → t.IsWhole andSign → t.stripParens = .ok none →
      Leaf.ofText t = .ok l → P t (.leaf l))
    {t : Text} {c : Condition} (h : ofText t = .ok c) : P t c := by
  -- The recursion is on each part of a cut; what is wanted is about all of them together.
  have hparts {parts : List Text} {cs : List Condition}
      (ih : ∀ p ∈ parts, ∀ c, ofText p = .ok c → P p c) (h : parts.mapM ofText = .ok cs) :
      List.Forall₂ (fun p c => ofText p = .ok c ∧ P p c) parts cs := by
    induction parts generalizing cs with
    | nil =>
        cases h
        exact .nil
    | cons p parts ihparts =>
        obtain ⟨c, cs, hc, hcs, rfl⟩ := Except.mapM_cons_eq_ok_iff.1 h
        exact .cons ⟨hc, ih p List.mem_cons_self c hc⟩
          (ihparts (fun q hq => ih q (List.mem_cons_of_mem _ hq)) hcs)
  induction t using ofText.induct generalizing c with
  | case1 t cause hor => simp [ofText_eq, hor] at h
  | case2 t parts hor hcut ih =>
      rw [ofText_eq] at h
      simp only [hor, if_pos hcut] at h
      obtain ⟨cs, hcs, rfl⟩ := Except.map_eq_ok_iff.1 h
      exact node (k := .any) nofun hor hcut (hparts (fun p hp _ => ih ⟨p, hp⟩) hcs)
  | case3 t parts hor hcut cause hand =>
      rw [ofText_eq] at h
      simp [hor, hcut, hand] at h
  | case4 t orParts hor horCut parts hand hcut ih =>
      rw [ofText_eq] at h
      simp only [hor, if_neg horCut, hand, if_pos hcut] at h
      obtain ⟨cs, hcs, rfl⟩ := Except.map_eq_ok_iff.1 h
      exact node (k := .all) (fun _ => ⟨orParts, hor, by omega⟩) hand hcut
        (hparts (fun p hp _ => ih ⟨p, hp⟩) hcs)
  | case5 t orParts hor horCut parts hand hcut cause hparens =>
      rw [ofText_eq] at h
      simp [hor, horCut, hand, hcut, hparens] at h
  | case6 t orParts hor horCut parts hand hcut inner hparens ih =>
      rw [ofText_eq] at h
      simp only [hor, if_neg horCut, hand, if_neg hcut, hparens] at h
      exact parens ⟨orParts, hor, by omega⟩ ⟨parts, hand, by omega⟩ hparens h (ih h)
  | case7 t orParts hor horCut parts hand hcut hparens =>
      rw [ofText_eq] at h
      simp only [hor, if_neg horCut, hand, if_neg hcut, hparens] at h
      obtain ⟨l, hl, rfl⟩ := Except.map_eq_ok_iff.1 h
      exact leaf ⟨orParts, hor, by omega⟩ ⟨parts, hand, by omega⟩ hparens hl

mutual

/-- Whether each node has at least two parts and each leaf a datum with a
name. -/
def IsTree : Condition → Prop
  | all parts => 2 ≤ parts.length ∧ AreTrees parts
  | any parts => 2 ≤ parts.length ∧ AreTrees parts
  | leaf l => l.dataName.isName = true

def AreTrees : List Condition → Prop
  | [] => True
  | c :: cs => IsTree c ∧ AreTrees cs

end

theorem areTrees_iff {cs : List Condition} : AreTrees cs ↔ ∀ c ∈ cs, IsTree c := by
  induction cs with
  | nil => simp [AreTrees]
  | cons c cs ih => simp [AreTrees, ih]

theorem isTree_node {k : Connective} {cs : List Condition} :
    (k.node cs).IsTree ↔ 2 ≤ cs.length ∧ ∀ c ∈ cs, IsTree c := by
  rw [← areTrees_iff]
  cases k <;> exact Iff.rfl

/-- A condition that was read is a tree. -/
theorem isTree_of_ofText {t : Text} {c : Condition} (h : ofText t = .ok c) : c.IsTree := by
  refine ofText_induct (fun _ c => c.IsTree) ?node ?parens ?leaf h
  case node =>
    intro t k parts cs _ _ hcut hparts
    refine isTree_node.2 ⟨hparts.length_eq ▸ hcut, fun c hc => ?_⟩
    obtain ⟨p, -, -, hp⟩ := forall₂_exists_of_mem_right hparts hc
    exact hp
  case parens => exact fun _ _ _ _ ih => ih
  case leaf => exact fun _ _ _ hl => Leaf.isName_of_ofText hl

end Condition

end Overlay
