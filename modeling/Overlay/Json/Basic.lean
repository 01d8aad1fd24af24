import Overlay.Number.Float64
import Overlay.Text.Basic

/-!
JSON values. A number is a whole number between `-2^63` and `2^64 - 1`, or a
finite float; `1` and `1.0` are different values. The fields of an object are
a list, and a value is `Ordered` when in each of its objects the keys are
strictly increasing.
-/

namespace Overlay

/-- A whole number that fits into 64 bits, signed or unsigned. -/
structure Whole where
  val : Int
  low : Int64.minValue.toInt ≤ val
  high : val < UInt64.size
  deriving DecidableEq

namespace Whole

def ofInt? (n : Int) : Option Whole :=
  if h : Int64.minValue.toInt ≤ n ∧ n < UInt64.size then some ⟨n, h.1, h.2⟩ else none

def ofInt64 (n : Int64) : Whole :=
  ⟨n.toInt, n.minValue_le_toInt, Int.lt_of_lt_of_le n.toInt_lt (by decide)⟩

/-- The same number as a signed word, if it is one. -/
def toInt64? (n : Whole) : Option Int64 :=
  if n.val ≤ Int64.maxValue.toInt then some (Int64.ofInt n.val) else none

theorem toInt64?_ofInt64 (n : Int64) : (ofInt64 n).toInt64? = some n := by
  simp [toInt64?, ofInt64, n.toInt_le]

end Whole

inductive Number
  | whole (n : Whole)
  | float (x : Finite64)
  deriving DecidableEq

inductive Json
  | null
  | bool (b : Bool)
  | number (n : Number)
  | string (s : Text)
  | array (items : List Json)
  | object (fields : List (Text × Json))

namespace Json

def ofInt64 (n : Int64) : Json := .number (.whole (.ofInt64 n))

/-- A float as a value. There is no text for an infinite number, so it
becomes `null`. -/
def ofFloat : Float64 → Json
  | .finite x => .number (.float x)
  | .infinite _ => .null

def ofString (s : String) : Json := .string s.toList

def asText? : Json → Option Text
  | .string s => some s
  | _ => none

def asArray? : Json → Option (List Json)
  | .array items => some items
  | _ => none

def asObject? : Json → Option (List (Text × Json))
  | .object fields => some fields
  | _ => none

/-- The value of a field, if the value is an object with such a field. -/
def field? (name : Text) : Json → Option Json
  | .object fields => fields.lookup name
  | _ => none

mutual

/-- Whether in each object the keys are strictly increasing. -/
def Ordered : Json → Prop
  | .array items => OrderedItems items
  | .object fields => (fields.map Prod.fst).Pairwise (· < ·) ∧ OrderedFields fields
  | _ => True

def OrderedItems : List Json → Prop
  | [] => True
  | v :: vs => Ordered v ∧ OrderedItems vs

def OrderedFields : List (Text × Json) → Prop
  | [] => True
  | (_, v) :: fs => Ordered v ∧ OrderedFields fs

end

mutual

def decEq : (a b : Json) → Decidable (a = b)
  | .null, b => match b with
    | .null => isTrue rfl
    | .bool _ | .number _ | .string _ | .array _ | .object _ => isFalse nofun
  | .bool x, b => match b with
    | .bool y => if h : x = y then isTrue (h ▸ rfl) else isFalse fun e => h (by injection e)
    | .null | .number _ | .string _ | .array _ | .object _ => isFalse nofun
  | .number x, b => match b with
    | .number y => if h : x = y then isTrue (h ▸ rfl) else isFalse fun e => h (by injection e)
    | .null | .bool _ | .string _ | .array _ | .object _ => isFalse nofun
  | .string x, b => match b with
    | .string y => if h : x = y then isTrue (h ▸ rfl) else isFalse fun e => h (by injection e)
    | .null | .bool _ | .number _ | .array _ | .object _ => isFalse nofun
  | .array x, b => match b with
    | .array y => match decEqItems x y with
      | isTrue h => isTrue (h ▸ rfl)
      | isFalse h => isFalse fun e => h (by injection e)
    | .null | .bool _ | .number _ | .string _ | .object _ => isFalse nofun
  | .object x, b => match b with
    | .object y => match decEqFields x y with
      | isTrue h => isTrue (h ▸ rfl)
      | isFalse h => isFalse fun e => h (by injection e)
    | .null | .bool _ | .number _ | .string _ | .array _ => isFalse nofun

def decEqItems : (a b : List Json) → Decidable (a = b)
  | [], [] => isTrue rfl
  | [], _ :: _ => isFalse nofun
  | _ :: _, [] => isFalse nofun
  | x :: xs, y :: ys => match decEq x y with
    | isFalse h => isFalse fun e => h (by injection e)
    | isTrue h => match decEqItems xs ys with
      | isFalse h' => isFalse fun e => h' (by injection e)
      | isTrue h' => isTrue (h ▸ h' ▸ rfl)

def decEqFields : (a b : List (Text × Json)) → Decidable (a = b)
  | [], [] => isTrue rfl
  | [], _ :: _ => isFalse nofun
  | _ :: _, [] => isFalse nofun
  | (k, x) :: xs, (l, y) :: ys =>
    if hk : k = l then match decEq x y with
      | isFalse h => isFalse fun e => h (by injection e with e; injection e)
      | isTrue h => match decEqFields xs ys with
        | isFalse h' => isFalse fun e => h' (by injection e)
        | isTrue h' => isTrue (hk ▸ h ▸ h' ▸ rfl)
    else isFalse fun e => hk (by injection e with e; injection e)

end

instance : DecidableEq Json := decEq

end Json

end Overlay
