import Overlay.Fault
import Overlay.Outcome
import Overlay.Text.Blank

/-!
String literals in a text. A literal begins and ends with a quote; inside it
a backslash just before a quote makes the quote part of the literal, and no
other use of a backslash has a meaning. Outside of literals a backslash may
not stand before a quote.

A comment begins with a number sign outside of literals. Comments are found
by a scan of its own, in which a backslash inside a literal takes away the
meaning of the character after it, be that a backslash or a quote.
-/

namespace Overlay

/-- A piece of a text together with the side of a boundary on which it lies:
for quotes, whether it is a literal; for brackets, whether it is a group. -/
inductive Stretch
  | outside (text : Text)
  | inside (text : Text)
  deriving DecidableEq

def Stretch.text : Stretch → Text
  | .outside t => t
  | .inside t => t

def Stretch.isInside : Stretch → Bool
  | .outside _ => false
  | .inside _ => true

/-- The text that the stretches make up. -/
def Stretch.flatten (ss : List Stretch) : Text := ss.flatMap Stretch.text

theorem Stretch.flatten_cons (s : Stretch) (ss : List Stretch) :
    Stretch.flatten (s :: ss) = s.text ++ Stretch.flatten ss := rfl

/-- An outside stretch, unless it would be empty. -/
def Stretch.outsideUnlessEmpty (t : Text) (rest : List Stretch) : List Stretch :=
  if t.isEmpty then rest else .outside t :: rest

namespace Text

/-- Stretches of the rest of a text. `inside` tells whether a literal is open
and `begun` is the stretch under way, reversed. -/
def quotesFrom (inside : Bool) (begun : Text) : Text → Except Fault (List Stretch)
  | [] =>
    if inside then .error .unterminatedQuote
    else .ok (Stretch.outsideUnlessEmpty begun.reverse [])
  | '\\' :: '"' :: rest =>
    if inside then quotesFrom true ('"' :: '\\' :: begun) rest
    else .error .escapedQuoteOutsideString
  | c :: rest =>
    if c = '"' then
      if inside then (quotesFrom false [] rest).map (.inside (begun.reverse ++ ['"']) :: ·)
      else (quotesFrom true ['"'] rest).map (Stretch.outsideUnlessEmpty begun.reverse)
    else quotesFrom inside (c :: begun) rest

/-- Cuts a text at its literals; the inside stretches are the literals with
their quotes, and no stretch is empty. -/
def quotes (t : Text) : Except Fault (List Stretch) := quotesFrom false [] t

theorem flatten_outsideUnlessEmpty (t : Text) (ss : List Stretch) :
    Stretch.flatten (Stretch.outsideUnlessEmpty t ss) = t ++ Stretch.flatten ss := by
  cases t <;> rfl

/-- The stretches make up the text. -/
theorem flatten_of_quotesFrom {inside : Bool} {begun t : Text} {ss : List Stretch}
    (h : quotesFrom inside begun t = .ok ss) : Stretch.flatten ss = begun.reverse ++ t := by
  fun_induction quotesFrom inside begun t generalizing ss with
  | case1 => cases h
  | case2 inside begun hin =>
      cases h
      rw [flatten_outsideUnlessEmpty]
      rfl
  | case3 begun rest ih => simpa using ih h
  | case4 => cases h
  | case5 begun rest hne ih =>
      obtain ⟨ss', hss, rfl⟩ := Except.map_eq_ok_iff.1 h
      rw [Stretch.flatten_cons, ih hss]
      simp [Stretch.text]
  | case6 inside begun rest hne hin ih =>
      obtain ⟨ss', hss, rfl⟩ := Except.map_eq_ok_iff.1 h
      rw [flatten_outsideUnlessEmpty, ih hss]
      simp
  | case7 inside begun c rest hne hc ih => simpa using ih h

theorem flatten_of_quotes {t : Text} {ss : List Stretch} (h : quotes t = .ok ss) :
    Stretch.flatten ss = t := flatten_of_quotesFrom h

/-- The rest of a line up to its comment. `escaped` tells whether a backslash
takes away the meaning of the next character. -/
def beforeCommentFrom (inside escaped : Bool) : Text → Text
  | [] => []
  | c :: rest =>
    if c = '\\' ∧ inside then c :: beforeCommentFrom inside (!escaped) rest
    else if c = '"' ∧ !escaped then c :: beforeCommentFrom (!inside) false rest
    else if c = '#' ∧ !inside then []
    else c :: beforeCommentFrom inside false rest

def beforeComment (line : Text) : Text := beforeCommentFrom false false line

/-- A line without its comment and without blanks around it. What is kept must
have all its literals closed. -/
def stripComment (line : Text) : Except Fault Text := do
  let kept := beforeComment line
  let _ ← quotes kept
  .ok kept.trim

end Text

end Overlay
