import Overlay.Call.Arguments
import Overlay.Keyed

/-!
Attributes, written `key=value`: metadata, each with one literal, and queries
for services, each with a list of literals. In a query the key `multi` is the
greatest number of services wanted, one if it is not given.
-/

namespace Overlay

/-- The key and the written value of an attribute. -/
def splitAttribute (t : Text) : Except Fault (Text × Text) := do
  match ← t.split ['='] (some 2) with
  | [key, value] =>
    if key.isName ∧ !value.isEmpty then .ok (key, value) else .error (.invalidAttribute t)
  | _ => .error (.invalidAttribute t)

/-- Adds an entry under a key that must be new. -/
def Keyed.insertNew {α : Type} (m : Keyed α) (key : Text) (value : α) :
    Except Fault (Keyed α) :=
  if m.contains key then .error (.duplicateDefinition key) else .ok (m.insert key value)

/-- Data about data. -/
abbrev Metadata := Keyed Literal

namespace Metadata

def add (m : Metadata) (t : Text) : Except Fault Metadata := do
  let (key, value) ← splitAttribute t
  m.insertNew key (← Literal.ofText value)

def ofText (t : Text) : Except Fault Metadata := do
  let ts ← Method.metadata.arguments t
  Method.metadata.expectAtLeast ts 1
  ts.foldlM add Keyed.empty

def toJson (m : Metadata) : Keyed Json := m.mapValues Literal.toJson

end Metadata

/-- What a query says under one key. -/
inductive Criterion
  | literals (ls : List Literal)
  | count (n : Int64)
  deriving DecidableEq

namespace Criterion

def toJson : Criterion → Json
  | literals ls => .array (ls.map Literal.toJson)
  | count n => .ofInt64 n

/-- A list of literals in square brackets, or a single literal. -/
def literalsOf (t : Text) : Except Fault (List Literal) :=
  match (Text.dropPrefix? ['['] t).bind (Text.dropSuffix? [']']) with
  | none => do return [← Literal.ofText t]
  | some inner =>
    if inner.allBlank then .error (.invalidLiteral t)
    else do (← inner.split [','] none).mapM Literal.ofText

/-- A whole number that is at least one. -/
def countOf (t : Text) : Except Fault Int64 := do
  match ← Literal.ofText t with
  | .integer n =>
    if 1 ≤ n.toInt then .ok n else .error (.notPositive .multi (.integer n))
  | l => .error (.notPositive .multi l)

end Criterion

/-- A query for services. -/
abbrev Query := Keyed Criterion

namespace Query

def multi : Text := "multi".toList

def add (q : Query) (t : Text) : Except Fault Query := do
  let (key, value) ← splitAttribute t
  let criterion ←
    if key = multi then (Criterion.countOf value).map .count
    else (Criterion.literalsOf value).map .literals
  q.insertNew key criterion

/-- The query with a count, one if it has none. -/
def withCount (q : Query) : Query :=
  if q.contains multi then q else q.insert multi (.count 1)

def ofText (t : Text) : Except Fault Query := do
  let ts ← Method.discovery.arguments t
  return (← ts.foldlM add Keyed.empty).withCount

def toJson (q : Query) : Keyed Json := q.mapValues Criterion.toJson

end Query

end Overlay
