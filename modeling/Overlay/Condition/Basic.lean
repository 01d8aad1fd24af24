import Overlay.Keyed
import Overlay.Literal
import Overlay.Pattern.Reader

/-!
Conditions on data. A leaf names a datum and holds a test of it: a comparison
with a threshold, a pattern, a range with both ends, or the negation of a
test. Leaves are combined to conditions of which all parts, or any part, must
hold.
-/

namespace Overlay

inductive Sign
  | le
  | ge
  | eq
  | ne
  | lt
  | gt
  deriving DecidableEq

namespace Sign

/-- The signs with two characters come first, so that the first sign with
which a text begins is the longest. -/
def all : List Sign := [le, ge, eq, ne, lt, gt]

def token : Sign → String
  | le => "<="
  | ge => ">="
  | eq => "=="
  | ne => "!="
  | lt => "<"
  | gt => ">"

def label (s : Sign) : Text := s.token.toList

def ofToken? (t : Text) : Option Sign := all.find? fun s => s.label = t

@[simp] theorem ofToken?_label (s : Sign) : ofToken? s.label = some s := by cases s <;> rfl

/-- The sign that holds exactly when the given one does not. -/
def opposite : Sign → Sign
  | le => gt
  | ge => lt
  | eq => ne
  | ne => eq
  | lt => ge
  | gt => le

/-- Whether a datum that is ordered to the threshold like this passes. -/
def accepts : Sign → Ordering → Bool
  | le, o => o != .gt
  | ge, o => o != .lt
  | eq, o => o == .eq
  | ne, o => o != .eq
  | lt, o => o == .lt
  | gt, o => o == .gt

theorem accepts_opposite (s : Sign) (o : Ordering) : s.opposite.accepts o = !s.accepts o := by
  cases s <;> cases o <;> rfl

end Sign

inductive Test
  | compare (sign : Sign) (threshold : Literal)
  | like (pattern : Pattern)
  | range (low high : Literal)
  | negation (test : Test)
  deriving DecidableEq

/-- A test of the datum with a name. -/
structure Leaf where
  dataName : Text
  test : Test
  deriving DecidableEq

inductive Condition
  | all (parts : List Condition)
  | any (parts : List Condition)
  | leaf (l : Leaf)

namespace Condition

mutual

/-- The leaves from left to right. -/
def leaves : Condition → List Leaf
  | all parts => leavesOf parts
  | any parts => leavesOf parts
  | leaf l => [l]

def leavesOf : List Condition → List Leaf
  | [] => []
  | c :: cs => leaves c ++ leavesOf cs

end

/-- The names of the data that are tested, in increasing order, each once. -/
def dataNames (c : Condition) : List Text := Keyed.distinct (c.leaves.map Leaf.dataName)

mutual

def decEq : (a b : Condition) → Decidable (a = b)
  | .all x, b => match b with
    | .all y => match decEqList x y with
      | isTrue h => isTrue (h ▸ rfl)
      | isFalse h => isFalse fun e => h (by injection e)
    | .any _ | .leaf _ => isFalse nofun
  | .any x, b => match b with
    | .any y => match decEqList x y with
      | isTrue h => isTrue (h ▸ rfl)
      | isFalse h => isFalse fun e => h (by injection e)
    | .all _ | .leaf _ => isFalse nofun
  | .leaf x, b => match b with
    | .leaf y => if h : x = y then isTrue (h ▸ rfl) else isFalse fun e => h (by injection e)
    | .all _ | .any _ => isFalse nofun

def decEqList : (a b : List Condition) → Decidable (a = b)
  | [], [] => isTrue rfl
  | [], _ :: _ => isFalse nofun
  | _ :: _, [] => isFalse nofun
  | x :: xs, y :: ys => match decEq x y with
    | isFalse h => isFalse fun e => h (by injection e)
    | isTrue h => match decEqList xs ys with
      | isFalse h' => isFalse fun e => h' (by injection e)
      | isTrue h' => isTrue (h ▸ h' ▸ rfl)

end

instance : DecidableEq Condition := decEq

end Condition

end Overlay
