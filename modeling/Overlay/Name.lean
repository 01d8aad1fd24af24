import Overlay.Fault
import Overlay.Text.Word

/-!
Names of services, scratches, channels and events: word characters, but none
of the words that have a meaning in a description.
-/

namespace Overlay

def reservedWords : List String :=
  ["state", "bloom", "do", "end", "scratch", "channel", "discovery", "select", "meta", "qos",
    "id", "filter", "cull_time", "cull_space", "aggregate", "string", "virtual", "time", "space",
    "range", "like", "not", "merge", "join", "trigger", "count", "on", "off", "multi"]

def isReserved (t : Text) : Bool := (reservedWords.map String.toList).contains t

/-- Accepts a name, and says what is wrong with any other text. -/
def checkName (t : Text) : Except Fault Unit :=
  if !t.isName then .error (.invalidName t)
  else if isReserved t then .error (.reservedWord t)
  else .ok ()

theorem checkName_eq_ok_iff {t : Text} :
    checkName t = .ok () ↔ t.isName = true ∧ isReserved t = false := by
  unfold checkName
  cases h : Text.isName t <;> cases h' : isReserved t <;> simp

end Overlay
