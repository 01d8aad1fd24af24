import Overlay.Call.Argument
import Overlay.Source.Opening
import Overlay.Text.Split

/-!
Calls of methods: a name, an opening bracket just after it, and arguments
between commas. The arguments of a call are cut first, as trimmed texts, and
then each is turned into one of the types that its position allows, the first
that fits.
-/

namespace Overlay

namespace Method

/-- The method that a text calls, going by its name. -/
def ofCall? (t : Text) : Option Method := do
  let (name, rest) ← t.leadingName?
  if rest.head? = some '(' then ofName? name else none

def isCalledBy (m : Method) (t : Text) : Bool := ofCall? t == some m

/-- What stands in the brackets of a call. -/
def group? (m : Method) (t : Text) : Option Text := do
  let rest ← Text.dropPrefix? m.label t
  match rest.brackets with
  | .ok ss => Text.enclosed? ss
  | .error _ => none

/-- The texts of the arguments of a call. A call without anything but blanks
in its brackets has no arguments. -/
def arguments (m : Method) (t : Text) : Except Fault (List Text) :=
  match m.group? t with
  | none => .error (.methodFormat m)
  | some inner => if inner.allBlank then .ok [] else inner.split [','] none

/-- Turns arguments into the types that their positions allow. `position` is
the position of the first, counted from one. -/
def convertFrom (m : Method) (position : Nat) :
    List Text → List (List ArgumentType) → Except Fault (List Argument)
  | t :: ts, types :: format =>
    match ArgumentType.convertFirst? types t with
    | none => .error (.argumentType m position t types)
    | some a => do return a :: (← convertFrom m (position + 1) ts format)
  | _, _ => .ok []

def convert (m : Method) (ts : List Text) (format : List (List ArgumentType)) :
    Except Fault (List Argument) :=
  convertFrom m 1 ts format

/-- The arguments of a call that has one for each entry of the format. -/
def call (m : Method) (t : Text) (format : List (List ArgumentType)) :
    Except Fault (List Argument) := do
  let ts ← m.arguments t
  if ts.length = format.length then m.convert ts format
  else .error (.argumentCount m (.exactly format.length) ts.length)

def expectAtLeast (m : Method) (ts : List Text) (least : Nat) : Except Fault Unit :=
  if ts.length < least then .error (.argumentCount m (.atLeast least) ts.length) else .ok ()

def expectBetween (m : Method) (ts : List Text) (least most : Nat) : Except Fault Unit :=
  if ts.length < least ∨ most < ts.length then
    .error (.argumentCount m (.between least most) ts.length)
  else .ok ()

end Method

end Overlay
