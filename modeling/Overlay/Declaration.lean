import Overlay.Attribute
import Overlay.Source.Item

/-!
Declarations of the `state` block: services, which are found by a query, and
the endpoints of data paths, each of which belongs to a service. Data come from
scratches and go to channels. The name of a service is written with an at sign
in front, which is not part of it.
-/

namespace Overlay

/-- The trimmed sides of a colon; neither may be empty. -/
def splitDeclaration (t : Text) : Except Fault (Text × Text) := do
  match ← t.split [':'] (some 2) with
  | [name, value] =>
    if name.isEmpty ∨ value.isEmpty then .error (.expectedDeclaration t) else .ok (name, value)
  | _ => .error (.expectedDeclaration t)

/-- The name in a reference to a service. -/
def serviceName (t : Text) : Except Fault Text :=
  match Text.dropPrefix? ['@'] t with
  | none => .error (.invalidName t)
  | some name => do
    checkName name
    return name

/-- The reference to a service with a name. -/
def serviceReference (name : Text) : Text := '@' :: name

structure Service where
  name : Text
  query : Query
  unit : SourceUnit
  deriving DecidableEq

namespace Service

def read (u : SourceUnit) : Except Fault Service := do
  let (name, query) ← splitDeclaration u.text
  let name ← serviceName name
  return ⟨name, ← Query.ofText query, u⟩

def ofUnit (u : SourceUnit) : Except Diagnostic Service := u.locate (read u)

def reference (s : Service) : Text := serviceReference s.name

end Service

inductive EndpointKind
  | scratch
  | channel
  deriving DecidableEq

def EndpointKind.construct : EndpointKind → Construct
  | scratch => .scratch
  | channel => .channel

structure Endpoint where
  kind : EndpointKind
  name : Text
  service : Text
  unit : SourceUnit
  deriving DecidableEq

namespace Endpoint

def read (kind : EndpointKind) (u : SourceUnit) : Except Fault Endpoint :=
  match Text.dropPrefix? kind.construct.name.toList u.text with
  | none => .error (.expectedKeyword kind.construct)
  | some rest => do
    let (name, owner) ← splitDeclaration rest.trim
    checkName name
    return ⟨kind, name, ← serviceName owner, u⟩

def ofUnit (kind : EndpointKind) (u : SourceUnit) : Except Diagnostic Endpoint :=
  u.locate (read kind u)

end Endpoint

inductive Declaration
  | service (s : Service)
  | endpoint (e : Endpoint)
  deriving DecidableEq

namespace Declaration

def name : Declaration → Text
  | service s => s.name
  | endpoint e => e.name

def unit : Declaration → SourceUnit
  | service s => s.unit
  | endpoint e => e.unit

def service? : Declaration → Option Service
  | service s => some s
  | endpoint _ => none

def endpoint? (kind : EndpointKind) : Declaration → Option Endpoint
  | service _ => none
  | endpoint e => if e.kind = kind then some e else none

def ofItem (i : Item) : Except Diagnostic Declaration :=
  match i.construct with
  | .service => (Service.ofUnit i.unit).map service
  | .scratch => (Endpoint.ofUnit .scratch i.unit).map endpoint
  | .channel => (Endpoint.ofUnit .channel i.unit).map endpoint
  | _ => .error (i.unit.diagnostic .noConstruct)

end Declaration

end Overlay
