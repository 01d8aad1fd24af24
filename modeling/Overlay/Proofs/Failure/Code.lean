import Overlay.Code.Basic
import Overlay.Proofs.Failure.Description
import Overlay.Proofs.Outline.Depth

/-!
Failures of a whole text. What compiling a text can answer is a fault of the text: no
operation is applied outside of its domain on the way, and an open bracket is missing
its closing one nowhere but in the header of an event block.
-/

namespace Overlay

open Text

variable {t : Text}

namespace Diagnostic

/-- Whether a diagnostic is about the header of an event block that stands in a text. -/
def IsAtHeader (t : Text) (d : Diagnostic) : Prop :=
  ∃ i header, Item.StandsIn t i ∧ i.construct = .eventBlock ∧ i.header = .ok header ∧
    d = header.diagnostic d.cause

/-- Whether a diagnostic is about a fault that a text can have. -/
structure IsExpected (t : Text) (d : Diagnostic) : Prop where
  notInternal : d.cause.isInternal = false
  header : d.cause.isOpening = true → d.IsAtHeader t

theorem isExpected_of_isRegular {d : Diagnostic} (h : d.cause.IsRegular) : d.IsExpected t where
  notInternal := h.notInternal
  header hopening := by
    rw [h.notOpening] at hopening
    cases hopening

theorem Arises.isExpected {d : Diagnostic} (h : d.Arises t) : d.IsExpected t := by
  cases h with
  | lines h =>
      apply isExpected_of_isRegular
      cases h with
      | quotes _ hline => exact regular_stripComment _ _ hline
      | unknown => exact ⟨rfl, rfl⟩
      | brackets _ _ hdepth => exact regular_bracketDepth _ _ hdepth
      | unit _ hcause => exact hcause.isRegular
  | header hi hevent hheader hread =>
      exact ⟨EventBlock.notInternal_readHeader _ _ hread, fun _ => ⟨_, _, hi, hevent, hheader, rfl⟩⟩
  | list => exact isExpected_of_isRegular ⟨rfl, rfl⟩

end Diagnostic

/-- Whether all failures of a computation are about faults that a text can have. -/
abbrev Expects {α : Type} (t : Text) (x : Except Diagnostic α) : Prop :=
  FailsOnly (Diagnostic.IsExpected t) x

theorem Description.expects_ofText (t : Text) : Expects t (ofText t) := by
  by_cases hne : t.lines = []
  · rw [ofText_of_no_lines hne]
    exact .error (Diagnostic.isExpected_of_isRegular ⟨rfl, rfl⟩)
  · exact (fails_ofText hne).mono fun _ hd => hd.isExpected

/-- A declaration does not need a state block. -/
theorem Node.ofItem_none {i : Item} (h : i.construct ∈ Construct.declarations) :
    Node.ofItem none i = (Declaration.ofItem i).map .declaration := by
  unfold Node.ofItem
  split <;> simp_all [Construct.declarations]

namespace Code

/-- Whether nothing that compiling a text relies on can fail. -/
structure IsGuarded (overlay t : Text) : Prop where
  /-- The answer is never an internal fault, and an open bracket is one of a header. -/
  cause : ∀ d, compile overlay t = .error d → d.IsExpected t
  /-- Declarations and rules are read without an open bracket. -/
  leaf : ∀ i, Item.StandsIn t i → i.construct.isBlock = false →
    RegularAt (Declaration.ofItem i) ∧ ∀ s, RegularAt (Rule.ofItem s i)
  /-- A block is only closed where one is open. -/
  depth : ∀ u candidates, Item.list? u candidates = some (Item.list u candidates)
  /-- A literal has its two quotes, and a group its two brackets. -/
  enclosed : ∀ (u part : Text) ss, u.quotes = .ok ss ∨ u.brackets = .ok ss →
    .inside part ∈ ss → part.IsEnclosed
  /-- There is one argument for each position, of one of its types. -/
  arguments : ∀ (m : Method) u ts used format args, m.arguments u = .ok ts → used ⊆ ts →
    used.length = format.length → m.convert used format = .ok args →
    List.Forall₂ Argument.Fits format args
  /-- In a position for whole numbers there is a whole number. -/
  integer : ∀ (m : Method) u format args index, m.call u format = .ok args →
    format[index]? = some [.integer] → ∃ n, Argument.nth Argument.integer? args index = .ok n
  /-- A declaration is not refused for standing outside of the rules. -/
  scope : ∀ u items i, Item.list u Construct.declarations = .ok items → i ∈ items →
    Node.ofItem none i = (Declaration.ofItem i).map .declaration

/-- No internal operation fails, and no internal fault is ever reported. -/
theorem isGuarded (overlay t : Text) : IsGuarded overlay t where
  cause d h := Description.expects_ofText t d (Except.map_eq_error_iff.1 h)
  leaf i h hleaf :=
    ⟨Declaration.regular_ofItem (h.isBalanced hleaf),
      fun s => Rule.regular_ofItem s (h.isBalanced hleaf)⟩
  depth := Item.list?_eq_some
  enclosed u part ss h hpart :=
    h.elim (fun hquotes => isEnclosed_of_quotes hquotes hpart)
      fun hbrackets => isEnclosed_of_brackets hbrackets hpart
  arguments m u ts used format args hts hused hlen h :=
    Method.fits_of_convert (fun s hs => Method.isBalanced_of_mem_arguments hts (hused hs)) hlen h
  integer m u format args index h hindex :=
    Argument.exists_nth Argument.shows_integer (Method.fits_of_call h) hindex (by decide)
  scope u items i h hi := Node.ofItem_none (Item.construct_mem_of_list h hi)

/-- A text with an event block whose header leaves a bracket open. -/
def halfOpen : Text :=
  ['\n'].intercalate
    (["state do", "end", "bloom do", "  (e.on do", "  end", "end"].map String.toList)

/-- The open bracket of `halfOpen` is reported for the header. -/
theorem isAtHeader_halfOpen : ∃ d, compile [] halfOpen = .error d ∧
    d.cause = .unmatchedOpening ')' ∧ d.IsAtHeader halfOpen := by
  have hread : Description.ofText halfOpen =
      .error ⟨.line 4, "  (e.on do".toList, .unmatchedOpening ')'⟩ := by decide +kernel
  have h : compile [] halfOpen = .error ⟨.line 4, "  (e.on do".toList, .unmatchedOpening ')'⟩ := by
    rw [compile, hread, Except.map_error]
  exact ⟨_, h, rfl, ((isGuarded [] halfOpen).cause _ h).header rfl⟩

end Code

end Overlay
