import Overlay.Text.Basic

/-!
Blank characters are those with the Unicode property `White_Space`; trimming
removes them from both ends. The zero-width space and the byte order mark are
not blank.
-/

namespace Overlay

/-- Whether a character is white space. -/
def isBlank (c : Char) : Bool :=
  let n := c.toNat
  (0x09 ≤ n && n ≤ 0x0D) || n == 0x20 || n == 0x85 || n == 0xA0 || n == 0x1680 ||
    (0x2000 ≤ n && n ≤ 0x200A) || n == 0x2028 || n == 0x2029 || n == 0x202F ||
    n == 0x205F || n == 0x3000

def blankCodes : List Nat :=
  List.range' 0x09 5 ++ [0x20, 0x85, 0xA0, 0x1680] ++ List.range' 0x2000 11 ++
    [0x2028, 0x2029, 0x202F, 0x205F, 0x3000]

theorem toNat_mem_blankCodes {c : Char} (h : isBlank c = true) : c.toNat ∈ blankCodes := by
  simp only [isBlank, Bool.or_eq_true, Bool.and_eq_true, decide_eq_true_eq, beq_iff_eq] at h
  simp only [blankCodes, List.mem_append, List.mem_range'_1, List.mem_cons, List.not_mem_nil,
    or_false]
  omega

/-- What holds of the white space in the list holds of all white space. -/
theorem of_isBlank {P : Char → Prop} (h : ∀ n ∈ blankCodes, P (Char.ofNat n)) {c : Char}
    (hc : isBlank c = true) : P c := by
  have hn := h _ (toNat_mem_blankCodes hc)
  rwa [Char.ofNat_toNat] at hn

namespace Text

def dropBlank (t : Text) : Text := t.dropWhile isBlank

def dropBlankEnd (t : Text) : Text := (dropBlank t.reverse).reverse

def trim (t : Text) : Text := dropBlankEnd (dropBlank t)

/-- Whether every character of a text is blank. -/
def allBlank (t : Text) : Bool := t.all isBlank

/-- The text without blanks in front, if that is one line and not empty. -/
def restOfLine? (t : Text) : Option Text :=
  let rest := dropBlank t
  if rest.isEmpty ∨ rest.contains '\n' then none else some rest

@[simp] theorem trim_nil : trim [] = [] := rfl

theorem length_dropBlank_le (t : Text) : (dropBlank t).length ≤ t.length :=
  (List.dropWhile_sublist isBlank).length_le

theorem length_restOfLine?_le {t rest : Text} (h : restOfLine? t = some rest) :
    rest.length ≤ t.length := by
  simp only [restOfLine?] at h
  split at h
  · cases h
  · cases h
    exact length_dropBlank_le t

theorem length_trim_le (t : Text) : (trim t).length ≤ t.length := by
  unfold trim dropBlankEnd
  have h := length_dropBlank_le t
  have h' := length_dropBlank_le (dropBlank t).reverse
  simp only [List.length_reverse] at *
  omega

end Text

end Overlay
