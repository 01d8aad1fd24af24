import Overlay.Text.Quote

/-!
Bracket structure of a text. Round and square brackets count, except inside
string literals. A stretch is inside when it is a literal or a whole bracket
group that lies outside of all other brackets; the stretches between are
outside.
-/

namespace Overlay.Text

/-- What a text is made of when its literals are taken as units. -/
inductive Token
  | char (c : Char)
  | literal (t : Text)
  deriving DecidableEq

def Token.text : Token → Text
  | .char c => [c]
  | .literal t => t

/-- The tokens of a text that was cut at its literals. -/
def tokens (ss : List Stretch) : List Token :=
  ss.flatMap fun
    | .inside t => [.literal t]
    | .outside t => t.map .char

/-- The closing bracket for an opening one. -/
def closer? (c : Char) : Option Char :=
  if c = '(' then some ')' else if c = '[' then some ']' else none

def isCloser (c : Char) : Bool := c == ')' || c == ']'

/-- Stretches found so far to the end of a text, and the closing brackets that
are still expected there, the innermost first. -/
structure Structure where
  stretches : List Stretch
  expected : List Char
  deriving DecidableEq

/-- Puts a stretch in front. -/
def Structure.cons (s : Stretch) (r : Structure) : Structure :=
  { r with stretches := s :: r.stretches }

/-- Puts an outside stretch in front, unless it would be empty. -/
def Structure.consOutside (t : Text) (r : Structure) : Structure :=
  { r with stretches := Stretch.outsideUnlessEmpty t r.stretches }

/-- The structure of the rest of a text. `expected` holds the closing brackets
of the open groups, the innermost first, and `begun` is the stretch under
way, reversed. -/
def structureFrom (expected : List Char) (begun : Text) :
    List Token → Except Fault Structure
  | [] =>
    .ok ⟨if expected.isEmpty then Stretch.outsideUnlessEmpty begun.reverse []
      else [.inside begun.reverse], expected⟩
  | .literal t :: rest =>
    if expected.isEmpty then
      (structureFrom [] [] rest).map fun r => (r.cons (.inside t)).consOutside begun.reverse
    else structureFrom expected (t.reverse ++ begun) rest
  | .char c :: rest =>
    match closer? c with
    | some close =>
      if expected.isEmpty then
        (structureFrom [close] [c] rest).map (·.consOutside begun.reverse)
      else structureFrom (close :: expected) (c :: begun) rest
    | none =>
      if isCloser c then
        match expected with
        | [] => .error (.unmatchedClosing c)
        | e :: outer =>
          if e = c then
            if outer.isEmpty then
              (structureFrom [] [] rest).map (·.cons (.inside (c :: begun).reverse))
            else structureFrom outer (c :: begun) rest
          else .error (.unmatchedClosing c)
      else structureFrom expected (c :: begun) rest

/-- The text that the tokens make up. -/
def Token.flatten (ts : List Token) : Text := ts.flatMap Token.text

theorem flatten_tokens (ss : List Stretch) : Token.flatten (tokens ss) = Stretch.flatten ss := by
  induction ss with
  | nil => rfl
  | cons s ss ih =>
      have hchars (t : Text) : (t.map Token.char).flatMap Token.text = t := by
        induction t with
        | nil => rfl
        | cons c t iht => simp [Token.text, iht]
      simp only [Token.flatten, tokens, Stretch.flatten, List.flatMap_cons,
        List.flatMap_append] at ih ⊢
      rw [ih]
      cases s with
      | outside t => rw [hchars]; rfl
      | inside t => simp [Token.text, Stretch.text]

/-- The stretches make up the text. -/
theorem flatten_of_structureFrom {expected : List Char} {begun : Text} {ts : List Token}
    {r : Structure} (h : structureFrom expected begun ts = .ok r) :
    Stretch.flatten r.stretches = begun.reverse ++ Token.flatten ts := by
  fun_induction structureFrom expected begun ts generalizing r with
  | case1 expected begun =>
      cases h
      simp only [Token.flatten, List.flatMap_nil, List.append_nil]
      split
      · rw [flatten_outsideUnlessEmpty]
        simp [Stretch.flatten]
      · simp [Stretch.flatten, Stretch.text]
  | case2 expected begun t rest hexp ih =>
      obtain ⟨a, ha, rfl⟩ := Except.map_eq_ok_iff.1 h
      have hflat := flatten_outsideUnlessEmpty begun.reverse (Stretch.inside t :: a.stretches)
      refine hflat.trans ?_
      rw [Stretch.flatten_cons, ih ha]
      rfl
  | case3 => simp_all [Token.flatten, Token.text]
  | case4 expected begun c rest close hclose hexp ih =>
      obtain ⟨a, ha, rfl⟩ := Except.map_eq_ok_iff.1 h
      have hflat := flatten_outsideUnlessEmpty begun.reverse a.stretches
      refine hflat.trans ?_
      rw [ih ha]
      rfl
  | case5 => simp_all [Token.flatten, Token.text]
  | case6 => cases h
  | case7 =>
      obtain ⟨a, ha, rfl⟩ := Except.map_eq_ok_iff.1 h
      simp_all [Structure.cons, Stretch.flatten, Stretch.text, Token.flatten, Token.text]
  | case8 => simp_all [Token.flatten, Token.text]
  | case9 => cases h
  | case10 => simp_all [Token.flatten, Token.text]

/-- The bracket structure of a text whose groups need not be closed. -/
def bracketStructure (t : Text) : Except Fault Structure := do
  structureFrom [] [] (tokens (← quotes t))

/-- Cuts a text at its top-level bracket groups and literals. -/
def brackets (t : Text) : Except Fault (List Stretch) := do
  let s ← bracketStructure t
  match s.expected with
  | [] => .ok s.stretches
  | e :: _ => .error (.unmatchedOpening e)

/-- How many brackets a text leaves open. -/
def bracketDepth (t : Text) : Except Fault Nat := do
  return (← bracketStructure t).expected.length

theorem flatten_of_brackets {t : Text} {ss : List Stretch} (h : brackets t = .ok ss) :
    Stretch.flatten ss = t := by
  simp only [brackets, bracketStructure, Except.bind_eq_ok_iff] at h
  obtain ⟨r, ⟨qs, hq, hs⟩, h⟩ := h
  split at h
  · cases h
    rw [flatten_of_structureFrom hs, flatten_tokens, flatten_of_quotes hq]
    rfl
  · cases h

end Overlay.Text
