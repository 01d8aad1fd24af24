import Overlay.Window

/-!
Virtual properties: data that are computed from other data by an expression.
The expression is kept as it was written.
-/

namespace Overlay

structure VirtualProperty where
  name : Text
  expression : Text
  deriving DecidableEq

namespace VirtualProperty

def ofText (t : Text) : Except Fault VirtualProperty := do
  let args ← Method.virtual.call t [[.dataName], [.string]]
  let expression ← Argument.nth Argument.text? args 1
  if expression.allBlank then .error .emptyExpression
  else do return ⟨← Argument.nth Argument.text? args 0, expression⟩

def toJson (p : VirtualProperty) : Json :=
  .ofFields [("expression", .string p.expression), ("name", .string p.name)]

end VirtualProperty

end Overlay
