import Overlay.Condition.Encoding

/-!
Whether a record satisfies a condition. A test of a value that cannot be
compared with the threshold has no result, and neither has its negation. A
leaf holds only if its datum is in the record and the test gives true.
-/

namespace Overlay

def Number.asFloat : Number → Float64
  | .whole n => .ofInt n.val
  | .float x => .finite x

/-- The order of texts by code points. -/
def Text.compare (a b : Text) : Ordering := compareOfLessAndEq a b

/-- How a value is ordered to a threshold, if they can be compared. A whole
number within the signed range is compared with a whole threshold exactly;
all other numbers are compared as floats. -/
def Json.compare? (v : Json) (threshold : Literal) : Option Ordering :=
  match v, threshold with
  | .string s, .string t => some (s.compare t)
  | .number (.whole n), .integer t =>
    match n.toInt64? with
    | some k => some (Ord.compare k.toInt t.toInt)
    | none => some ((Float64.ofInt n.val).compare (.ofInt t.toInt))
  | .number n, t => t.asFloat?.map n.asFloat.compare
  | _, _ => none

namespace Test

/-- Whether a value passes the test, if it can be tested. -/
def check : Test → Json → Option Bool
  | .compare sign threshold, v => (v.compare? threshold).map sign.accepts
  | .like pattern, v => v.asText?.map pattern.occursIn
  | .range low high, v => do
    let a ← v.compare? low
    let b ← v.compare? high
    some (Sign.ge.accepts a && Sign.le.accepts b)
  | .negation test, v => (test.check v).map (!·)

end Test

/-- Whether the datum in a record passes the test. -/
def Leaf.holds (l : Leaf) (record : Json) : Bool :=
  ((record.field? l.dataName).bind l.test.check).getD false

namespace Condition

mutual

def holds (record : Json) : Condition → Bool
  | all parts => allHold record parts
  | any parts => anyHolds record parts
  | leaf l => l.holds record

def allHold (record : Json) : List Condition → Bool
  | [] => true
  | c :: cs => holds record c && allHold record cs

def anyHolds (record : Json) : List Condition → Bool
  | [] => false
  | c :: cs => holds record c || anyHolds record cs

end

/-- Whether a record satisfies the condition that a value stands for. -/
def check (tree record : Json) : Except Fault Bool := (ofJson tree).map (holds record)

end Condition

end Overlay
