import Overlay.Source.Opening
import Overlay.Source.Unit
import Overlay.Text.Bracket

/-!
Cutting a unit into items. An item begins at a line that begins one of the
expected constructs, the first that fits. A block lasts until as many `end`
lines were read as lines that open a block; every other item lasts until all
brackets of its text are closed. Between items only empty lines may stand.
-/

namespace Overlay

/-- A construct that was recognised by its first line, with its lines. -/
structure Item where
  construct : Construct
  unit : SourceUnit
  deriving DecidableEq

namespace Item

/-- The first line of a block; of any other item all of it. -/
def header (i : Item) : Except Diagnostic SourceUnit :=
  if i.construct.isBlock then i.unit.slice 0 1 else .ok i.unit

/-- What stands between the first line of a block and its `end`. -/
def body (i : Item) : Except Diagnostic SourceUnit :=
  i.unit.slice 1 (i.unit.lines.length - 1)

/-- An item that is being read. A block counts how many blocks are open,
itself included; any other item collects the text of its lines. -/
structure Open where
  construct : Construct
  first : Nat
  lines : List Text
  depth : Nat
  text : Text

namespace Open

def start (construct : Construct) (number : Nat) (line stripped : Text) : Open :=
  ⟨construct, number, [line], 1, stripped⟩

/-- The item after one more line. -/
def feed (o : Open) (line stripped : Text) : Open :=
  let o := { o with lines := o.lines ++ [line] }
  if o.construct.isBlock then
    if Construct.isEnd stripped then { o with depth := o.depth - 1 }
    else if Construct.isHeader stripped then { o with depth := o.depth + 1 }
    else o
  else if stripped.isEmpty then o
  else { o with text := o.text ++ ' ' :: stripped }

/-- Whether the item ends with the lines that were read. -/
def isComplete (o : Open) : Except Fault Bool :=
  if o.construct.isBlock then .ok (o.depth == 0)
  else (Text.bracketDepth o.text).map (· == 0)

def diagnostic (o : Open) (cause : Fault) : Diagnostic :=
  ⟨.ofCount o.first o.lines.length, ['\n'].intercalate o.lines, cause⟩

def close (o : Open) : Except Diagnostic Item := do
  return ⟨o.construct, ← SourceUnit.ofLines o.first o.lines⟩

end Open

/-- The item that a line begins. -/
def begin? (candidates : List Construct) (number : Nat) (line stripped : Text) :
    Except Diagnostic Open :=
  match candidates.find? (·.opens stripped) with
  | some construct => .ok (.start construct number line stripped)
  | none => .error ⟨.line number, stripped, .noConstruct⟩

/-- The items of the rest of a unit. `reading` is the item that earlier lines
left open. -/
def listFrom (candidates : List Construct) :
    (reading : Option Open) → List (Nat × Text) → Except Diagnostic (List Item)
  | none, [] => .ok []
  | some o, [] => .error (o.diagnostic (.missingTerminator o.construct o.first))
  | reading, (number, line) :: rest =>
    match line.stripComment with
    | .error cause => .error ⟨.line number, line.trim, cause⟩
    | .ok stripped =>
      match reading, stripped with
      | none, [] => listFrom candidates none rest
      | reading, stripped => do
        let o ← match reading with
          | none => begin? candidates number line stripped
          | some o => .ok (o.feed line stripped)
        match o.isComplete with
        | .error cause => .error (o.diagnostic cause)
        | .ok false => listFrom candidates (some o) rest
        | .ok true =>
          let item ← o.close
          let items ← listFrom candidates none rest
          return item :: items

/-- The items of a unit, in order. -/
def list (u : SourceUnit) (candidates : List Construct) : Except Diagnostic (List Item) :=
  listFrom candidates none u.numberedLines

end Item

end Overlay
