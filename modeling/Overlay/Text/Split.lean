import Overlay.Text.Bracket

/-!
Cutting a text at a delimiter. Only occurrences outside of all literals and
brackets count, and each of the parts is trimmed.
-/

namespace Overlay.Text

/-- Where a text is cut: a number of cuts that are still allowed, or no
bound. -/
abbrev Budget := Option Nat

def Budget.isSpent (b : Budget) : Bool := b == some 0

def Budget.spend (b : Budget) : Budget := b.map (· - 1)

/-- Cuts an outside stretch at the occurrences of a delimiter, from left to
right and without overlap. `begun` is the part under way, reversed, and `skip`
counts the characters that still belong to the last occurrence. The result
holds the finished parts, the part under way after the stretch, and the
budget left. -/
def cutStretch (delimiter : Text) (budget : Budget) (begun : Text) (skip : Nat) :
    Text → List Text × Text × Budget
  | [] => ([], begun, budget)
  | c :: rest =>
    match skip with
    | skip + 1 => cutStretch delimiter budget begun skip rest
    | 0 =>
      if !budget.isSpent && delimiter.isPrefixOf (c :: rest) then
        let (parts, last, left) :=
          cutStretch delimiter budget.spend [] (delimiter.length - 1) rest
        (begun.reverse :: parts, last, left)
      else cutStretch delimiter budget (c :: begun) 0 rest

/-- Untrimmed parts of a text that was cut at its brackets. -/
def partsFrom (delimiter : Text) (budget : Budget) (begun : Text) : List Stretch → List Text
  | [] => [begun.reverse]
  | .inside t :: rest => partsFrom delimiter budget (t.reverse ++ begun) rest
  | .outside t :: rest =>
    let (parts, begun, budget) := cutStretch delimiter budget begun 0 t
    parts ++ partsFrom delimiter budget begun rest

/-- Cuts a text at the outside occurrences of a delimiter, which must not be
empty. With a limit there are at most so many parts, and at least one; the
last holds all that is left. -/
def split (t delimiter : Text) (limit : Option Nat) : Except Fault (List Text) := do
  let ss ← brackets t
  return (partsFrom delimiter (limit.map (· - 1)) [] ss).map trim

/-- Each cut takes at least one character away. -/
theorem length_cutStretch_le (delimiter : Text) (budget : Budget) (begun : Text) (skip : Nat)
    (t : Text) :
    let r := cutStretch delimiter budget begun skip t
    r.1.flatten.length + r.1.length + r.2.1.length ≤ begun.length + t.length := by
  fun_induction cutStretch delimiter budget begun skip t with
  | case1 => simp
  | case2 budget begun c rest skip ih =>
      simp only [List.length_cons] at ih ⊢
      omega
  | case3 budget begun c rest hcut parts last left heq ih =>
      simp only [heq, List.length_nil, List.flatten_cons, List.length_append,
        List.length_reverse, List.length_cons] at ih ⊢
      omega
  | case4 budget begun c rest hcut ih =>
      simp only [List.length_cons] at ih ⊢
      omega

theorem length_partsFrom_le (delimiter : Text) (budget : Budget) (begun : Text)
    (ss : List Stretch) :
    let parts := partsFrom delimiter budget begun ss
    parts.flatten.length + parts.length ≤
      begun.length + (Stretch.flatten ss).length + 1 := by
  fun_induction partsFrom delimiter budget begun ss with
  | case1 => simp [Stretch.flatten]
  | case2 budget begun t rest ih =>
      simp only [Stretch.flatten_cons, Stretch.text, List.length_append, List.length_reverse]
        at ih ⊢
      omega
  | case3 budget begun t rest parts begun' budget' heq ih =>
      have hcut := length_cutStretch_le delimiter budget begun 0 t
      simp only [heq, Stretch.flatten_cons, Stretch.text, List.length_append,
        List.flatten_append] at hcut ih ⊢
      omega

/-- A text that was cut is longer than each of its parts. -/
theorem length_lt_of_mem_split {t delimiter : Text} {limit : Option Nat} {parts : List Text}
    {p : Text} (h : split t delimiter limit = .ok parts) (hp : p ∈ parts)
    (hcut : 2 ≤ parts.length) : p.length < t.length := by
  unfold split at h
  cases hb : brackets t with
  | error e =>
      rw [hb] at h
      cases h
  | ok ss =>
      rw [hb] at h
      cases h
      obtain ⟨q, hq, rfl⟩ := List.mem_map.1 hp
      have hsum := length_partsFrom_le delimiter (limit.map (· - 1)) [] ss
      have hmem := (List.sublist_flatten_of_mem hq).length_le
      have htrim := length_trim_le q
      simp only [List.length_map, List.length_nil, flatten_of_brackets hb] at hcut hsum
      omega

/-- What stands in a pair of round brackets that encloses a whole text. -/
def enclosed? (ss : List Stretch) : Option Text :=
  match ss with
  | [.inside group] =>
    if group.head? = some '(' ∧ group.getLast? = some ')' then some group.inner else none
  | _ => none

/-- What stands in a pair of round brackets that encloses a whole text,
trimmed; none if there is no such pair. -/
def stripParens (t : Text) : Except Fault (Option Text) := do
  return (enclosed? (← brackets t.trim)).map trim

theorem length_inner_lt {t : Text} (h : t ≠ []) : t.inner.length < t.length := by
  have := List.length_pos_iff.2 h
  simp only [inner, List.length_dropLast, List.length_tail]
  omega

theorem length_lt_of_enclosed? {ss : List Stretch} {t : Text} (h : enclosed? ss = some t) :
    t.length < (Stretch.flatten ss).length := by
  unfold enclosed? at h
  split at h
  · next group =>
    split at h
    · next hround =>
      cases h
      have hne : group ≠ [] := by
        rintro rfl
        simp at hround
      simpa [Stretch.flatten, Stretch.text] using length_inner_lt hne
    · cases h
  · cases h

/-- A text is longer than what its brackets enclose. -/
theorem length_lt_of_stripParens {t inner : Text} (h : stripParens t = .ok (some inner)) :
    inner.length < t.length := by
  simp only [stripParens, Except.bind_eq_ok_iff, Except.pure_eq_ok_iff,
    Option.map_eq_some_iff] at h
  obtain ⟨ss, hb, group, hgroup, rfl⟩ := h
  have hlt := length_lt_of_enclosed? hgroup
  rw [flatten_of_brackets hb] at hlt
  have h1 := length_trim_le t
  have h2 := length_trim_le group
  omega

end Overlay.Text
