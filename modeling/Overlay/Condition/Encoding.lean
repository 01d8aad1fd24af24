import Overlay.Condition.Reader

/-!
Conditions in the intermediate code. A condition is an object with one field:
`-and` or `-or` with the list of at least two parts, or the name of a datum
with its test. A test is a list that begins with a word or a sign.
-/

namespace Overlay

namespace Test

def toJson : Test → Json
  | .compare sign threshold => .array [.string sign.label, threshold.toJson]
  | .like pattern => .array [.string "like".toList, .string pattern.source]
  | .range low high => .array [.string "range".toList, low.toJson, high.toJson]
  | .negation test => .array [.string "not".toList, test.toJson]

/-- The test in a list of three values. -/
def ofThree (word low high : Json) : Except Fault Test :=
  match Literal.ofJson? low, Literal.ofJson? high with
  | some a, some b =>
    if word = .ofString "range" then .ok (.range a b)
    else .error (.malformedCondition (.array [word, low, high]))
  | _, _ => .error (.malformedCondition (.array [word, low, high]))

/-- The comparison in a list of a sign and a threshold. -/
def ofSign (token : Text) (threshold : Json) : Except Fault Test :=
  match Sign.ofToken? token, Literal.ofJson? threshold with
  | some sign, some l => .ok (.compare sign l)
  | _, _ => .error (.malformedCondition (.array [.string token, threshold]))

/-- The pattern test in a list of the word `like` and a pattern. -/
def ofPattern : Json → Except Fault Test
  | .string source => (Leaf.readPattern source).map .like
  | v => .error (.malformedCondition (.array [.ofString "like", v]))

def ofJson : Json → Except Fault Test
  | .array [.string word, v] =>
    if word = "like".toList then ofPattern v
    else if word = "not".toList then (ofJson v).map .negation
    else ofSign word v
  | .array [word, v, w] => ofThree word v w
  | v => .error (.malformedCondition v)

end Test

namespace Leaf

def toJson (l : Leaf) : Json := .object [(l.dataName, l.test.toJson)]

end Leaf

namespace Condition

def andKey : Text := "-and".toList

def orKey : Text := "-or".toList

mutual

def toJson : Condition → Json
  | all parts => .object [(andKey, .array (toJsons parts))]
  | any parts => .object [(orKey, .array (toJsons parts))]
  | leaf l => l.toJson

def toJsons : List Condition → List Json
  | [] => []
  | c :: cs => toJson c :: toJsons cs

end

/-- The fault of a value that is not an object with one list. The test in
such an object is to blame, unless its key is one of the two for parts. -/
def malformed (v : Json) : Fault :=
  match v with
  | .object [(key, inner)] =>
    .malformedCondition (if key = andKey ∨ key = orKey then v else inner)
  | _ => .malformedCondition v

mutual

def ofJson : Json → Except Fault Condition
  | .object [(key, .array items)] =>
    if key = andKey ∨ key = orKey then
      if 2 ≤ items.length then
        (ofJsons items).map (if key = andKey then all else any)
      else .error (.malformedCondition (.object [(key, .array items)]))
    else (Test.ofJson (.array items)).map fun test => leaf ⟨key, test⟩
  | v => .error (malformed v)

def ofJsons : List Json → Except Fault (List Condition)
  | [] => .ok []
  | v :: vs => do
    let c ← ofJson v
    let cs ← ofJsons vs
    return c :: cs

end

end Condition

end Overlay
