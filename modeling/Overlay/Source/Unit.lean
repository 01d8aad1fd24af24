import Overlay.Source.Diagnostic
import Overlay.Text.Lines
import Overlay.Text.Quote

/-!
Units of source. A unit keeps its lines as they were written and has a text
for reading: the lines without comments and outer blanks, joined by single
spaces, the empty ones left out. A fragment is a part of the text of a unit
that still belongs to the lines of the whole.
-/

namespace Overlay

structure SourceUnit where
  first : Nat
  lines : List Text
  text : Text
  deriving DecidableEq

namespace SourceUnit

/-- Lines without comments and outer blanks, the empty ones left out. The
first line has the number `number`. -/
def strippedFrom (number : Nat) : List Text → Except Diagnostic (List Text)
  | [] => .ok []
  | line :: rest =>
    match line.stripComment with
    | .error cause => .error ⟨.line number, line.trim, cause⟩
    | .ok stripped => do
      let more ← strippedFrom (number + 1) rest
      return if stripped.isEmpty then more else stripped :: more

def ofLines (first : Nat) (lines : List Text) : Except Diagnostic SourceUnit := do
  return ⟨first, lines, [' '].intercalate (← strippedFrom first lines)⟩

/-- The unit of a whole text that comes after `offset` other lines. -/
def ofText (text : Text) (offset : Nat) : Except Diagnostic SourceUnit :=
  ofLines (offset + 1) text.lines

/-- The unit without lines at a place. -/
def bare (offset : Nat) : SourceUnit := ⟨offset + 1, [], []⟩

def span (u : SourceUnit) : Span := .ofCount u.first u.lines.length

/-- The lines as they were written. -/
def source (u : SourceUnit) : Text := ['\n'].intercalate u.lines

def numberFrom (number : Nat) : List Text → List (Nat × Text)
  | [] => []
  | line :: rest => (number, line) :: numberFrom (number + 1) rest

/-- The lines with their numbers. -/
def numberedLines (u : SourceUnit) : List (Nat × Text) := numberFrom u.first u.lines

/-- A part of the text, at the place of the whole. -/
def fragment (u : SourceUnit) (text : Text) : SourceUnit := { u with text := text.trim }

/-- The unit of the lines from index `start` up to but without `stop`; both are
brought into the range of the lines. -/
def slice (u : SourceUnit) (start stop : Nat) : Except Diagnostic SourceUnit :=
  let stop := min stop u.lines.length
  let start := min start stop
  ofLines (u.first + start) ((u.lines.take stop).drop start)

/-- The diagnostic for a cause that concerns the whole unit. -/
def diagnostic (u : SourceUnit) (cause : Fault) : Diagnostic := ⟨u.span, u.source, cause⟩

/-- Places the cause of a failure at the unit. -/
def locate {α : Type} (u : SourceUnit) : Except Fault α → Except Diagnostic α
  | .ok a => .ok a
  | .error cause => .error (u.diagnostic cause)

end SourceUnit

end Overlay
