import Overlay.Text.Blank
import Overlay.Unicode.Word

/-!
Word characters, of which names are made. Blank characters and ASCII
punctuation other than the underscore are not among them, so a name ends
where the first of these stands.
-/

namespace Overlay

/-- Whether a character may stand in a name. -/
def isWord (c : Char) : Bool :=
  if c.toNat < 128 then c.isAlphanum || c == '_'
  else Unicode.wordRanges.contains c.toNat

namespace Text

/-- The longest beginning that is made of word characters, and the rest. -/
def spanWord (t : Text) : Text × Text := (t.takeWhile isWord, t.dropWhile isWord)

/-- Whether a text is a name: word characters, and at least one. -/
def isName (t : Text) : Bool := !t.isEmpty && t.all isWord

theorem spanWord_append (t : Text) : t.spanWord.1 ++ t.spanWord.2 = t :=
  List.takeWhile_append_dropWhile

end Text

/-- No blank character is a word character. -/
theorem isWord_eq_false_of_isBlank {c : Char} (h : isBlank c = true) : isWord c = false :=
  of_isBlank (P := fun c => isWord c = false) (by decide +kernel) h

end Overlay
