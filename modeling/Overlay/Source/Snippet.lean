import Overlay.Source.Diagnostic
import Overlay.Text.Lines
import Overlay.Unicode.Width

/-!
Error messages with the lines that they concern. A message has a title, the
numbered lines and, under the last of them, a mark with the reason; several
lines are bracketed at their left. Without any source the reason is the title.
The pieces of a message have styles, which show only if colour is wanted.
-/

namespace Overlay

/-- The look of a piece of a message. -/
inductive Style
  | plain
  | title
  | alarm
  | margin
  deriving DecidableEq

/-- The escape code that switches a style on. -/
def Style.code? : Style → Option String
  | plain => none
  | title => some "\x1b[1m"
  | alarm => some "\x1b[1;38;5;9m"
  | margin => some "\x1b[1;38;5;12m"

structure Piece where
  style : Style
  text : Text
  deriving DecidableEq

namespace Piece

def plain (s : String) : Piece := ⟨.plain, s.toList⟩

def alarm (s : String) : Piece := ⟨.alarm, s.toList⟩

def render (colour : Bool) (p : Piece) : Text :=
  match colour, p.style.code? with
  | true, some code => code.toList ++ p.text ++ "\x1b[0m".toList
  | _, _ => p.text

end Piece

abbrev Snippet := List (List Piece)

namespace Snippet

/-- The lines of a snippet, with line feeds between them. -/
def render (colour : Bool) (s : Snippet) : Text :=
  ['\n'].intercalate (s.map fun line => line.flatMap (Piece.render colour))

def spaces (n : Nat) : Text := List.replicate n ' '

/-- The column for line numbers, with a number or without. -/
def column (width : Nat) (number : Option Nat) : Piece :=
  let digits := (number.map fun n => Nat.toDigits 10 n).getD []
  ⟨.margin, spaces (width - digits.length) ++ digits ++ [' ', '|']⟩

def heading (title : String) : List Piece :=
  [.alarm "error", .plain ": ", ⟨.title, title.toList⟩]

/-- The line that says from where the source comes. -/
def place (width : Nat) (origin : Text) (first : Nat) : List Piece :=
  [⟨.plain, spaces width⟩, ⟨.margin, ['-', '-', '>']⟩,
    ⟨.plain, ' ' :: origin ++ ':' :: Nat.toDigits 10 first ++ [':', '1']⟩]

/-- A line and a mark of some columns under it. -/
def single (width first : Nat) (line : Text) (columns : Nat) (reason : String) : Snippet :=
  [[column width (some first), ⟨.plain, ' ' :: line⟩],
    [column width none, ⟨.alarm, ' ' :: List.replicate columns '^'⟩, .plain " ", .alarm reason]]

/-- Bracketed lines; the first has the number `number` and the mark `mark`. -/
def bracketed (width number : Nat) (mark : String) : List Text → Snippet
  | [] => []
  | line :: rest =>
    [column width (some number), .plain " ", .alarm mark, ⟨.plain, ' ' :: line⟩] ::
      bracketed width (number + 1) "|" rest

/-- The end of a bracket, under the last character of the last line. -/
def closing (width : Nat) (last : Text) (reason : String) : List Piece :=
  [column width none, .plain " ", .alarm "|",
    ⟨.alarm, List.replicate (max 1 last.width) '_' ++ ['^']⟩, .plain " ", .alarm reason]

/-- The lines of a text with their mark. A text that ends with a line feed has
no mark at its end and so no reason, but a line feed alone is shown as an empty
line with a mark of one column. -/
def marked (width first : Nat) (t : Text) (reason : String) : Snippet :=
  if t = ['\n'] then single width first [] 1 reason
  else if t.getLast? = some '\n' then bracketed width first "/" t.lines
  else
    match t.lines with
    | [line] => single width first line line.width reason
    | lines => bracketed width first "/" lines ++ [closing width (lines.getLastD []) reason]

end Snippet

namespace Diagnostic

open Snippet in
def snippet (d : Diagnostic) (origin : Option Text) : Snippet :=
  let reason := d.cause.message
  if d.text.isEmpty then [heading reason]
  else
    let first := d.span.first
    let width := (Nat.toDigits 10 (first + d.text.lines.length - 1)).length
    heading "compile error" :: (origin.map fun o => place width o first).toList ++
      [column width none] :: marked width first d.text reason ++ [[column width none]]

end Diagnostic

end Overlay
