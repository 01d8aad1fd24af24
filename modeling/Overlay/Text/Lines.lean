import Overlay.Text.Basic

/-!
Lines of a text. A line ends at a line feed; one carriage return just before
that line feed belongs to the ending. What follows the last line feed is a
line only if it is not empty, so the empty text has no lines.
-/

namespace Overlay.Text

/-- A line without the carriage return at its end, if it has one. -/
def dropReturn (line : Text) : Text :=
  if line.getLast? = some '\r' then line.dropLast else line

/-- Lines of the rest of a text, given the reversed beginning of the first. -/
def linesFrom (begun : Text) : Text → List Text
  | [] => if begun.isEmpty then [] else [begun.reverse]
  | '\n' :: rest => dropReturn begun.reverse :: linesFrom [] rest
  | c :: rest => linesFrom (c :: begun) rest

def lines (t : Text) : List Text := linesFrom [] t

@[simp] theorem lines_nil : lines [] = [] := rfl

end Overlay.Text
