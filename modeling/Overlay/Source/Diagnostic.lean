import Overlay.Fault
import Overlay.Source.Span

/-!
Errors with their place: the cause, the lines that it concerns and the source
text of these lines.
-/

namespace Overlay

structure Diagnostic where
  span : Span
  text : Text
  cause : Fault
  deriving DecidableEq

namespace Diagnostic

def message (d : Diagnostic) : String :=
  "line " ++ d.span.text ++ ": " ++ d.cause.message

end Diagnostic

end Overlay
