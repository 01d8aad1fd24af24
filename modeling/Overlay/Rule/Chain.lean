import Overlay.Attribute
import Overlay.Declaration
import Overlay.Processing

/-!
Chains of calls on an endpoint, `name.call(…).call(…)`. On both sides of a
transmission data can be selected and metadata given; the quality of service,
an identifier and processing stand on the side of the scratch. Of each of
these but processing there is at most one, and the calls that process data
keep their order.
-/

namespace Overlay

/-- The data names that a call of `select` lists. -/
def selection (t : Text) : Except Fault (List Text) := do
  let ts ← Method.select.arguments t
  Method.select.expectAtLeast ts 1
  let args ← Method.select.convert ts (List.replicate ts.length [.dataName])
  (List.range args.length).mapM (Argument.nth Argument.text? args)

/-- Quality of service. -/
structure Qos where
  bandwidth : Literal
  priority : Int64
  deriving DecidableEq

namespace Qos

def ofText (t : Text) : Except Fault Qos := do
  let args ← Method.qos.call t [ArgumentType.number, [.integer]]
  let bandwidth ← Argument.nth Argument.literal? args 0
  checkPositive .bandwidth bandwidth
  return ⟨bandwidth, ← Argument.nth Argument.integer? args 1⟩

def toJson (q : Qos) : Keyed Json :=
  .ofList [
    ("bandwidth".toList, q.bandwidth.toJson),
    ("priority".toList, .ofInt64 q.priority)]

end Qos

/-- The identifier in a call of `id`. -/
def identifier (t : Text) : Except Fault Text := do
  let args ← Method.id.call t [[.string]]
  let id ← Argument.nth Argument.text? args 0
  if id.isEmpty then .error .emptyId else .ok id

structure Chain where
  name : Text
  select : Option (List Text)
  metadata : Option Metadata
  qos : Option Qos
  id : Option Text
  processing : List Processing
  deriving DecidableEq

namespace Chain

/-- What precedes the first opening bracket. -/
def callName (t : Text) : Text := Text.trim (t.takeWhile (· != '('))

/-- Fills a place for a call that may appear once. -/
def setOnce {α : Type} (m : Method) (place : Option α) (value : Except Fault α) :
    Except Fault (Option α) := do
  let a ← value
  if place.isSome then .error (.duplicateModifier m) else .ok (some a)

/-- Adds a call. -/
def add (kind : EndpointKind) (c : Chain) (t : Text) : Except Fault Chain :=
  match kind, Method.ofCall? t with
  | _, some .select => do
    return { c with select := ← setOnce .select c.select (selection t) }
  | _, some .metadata => do
    return { c with metadata := ← setOnce .metadata c.metadata (Metadata.ofText t) }
  | .scratch, some .qos => do return { c with qos := ← setOnce .qos c.qos (Qos.ofText t) }
  | .scratch, some .id => do return { c with id := ← setOnce .id c.id (identifier t) }
  | .scratch, some m => do
    return { c with processing := c.processing ++ [← Processing.ofText m t] }
  | _, _ => .error (.unknownMethod (callName t))

def ofText (kind : EndpointKind) (t : Text) : Except Fault Chain := do
  let ts ← t.split ['.'] none
  let name := ts.headD []
  checkName name
  ts.tail.foldlM (add kind) ⟨name, none, none, none, none, []⟩

end Chain

end Overlay
