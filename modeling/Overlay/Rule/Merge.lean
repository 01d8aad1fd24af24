import Overlay.Rule.Transmission

/-!
Merges of channels, `channel <~ merge(delay, channel, …)`. A join needs at
least two sources and may end with a virtual property of the joined data.
-/

namespace Overlay

inductive MergeKind
  | merge
  | join
  deriving DecidableEq

namespace MergeKind

def method : MergeKind → Method
  | merge => .merge
  | join => .join

def ofMethod? : Method → Option MergeKind
  | .merge => some merge
  | .join => some join
  | _ => none

/-- How many sources there must be. -/
def leastSources : MergeKind → Nat
  | merge => 1
  | join => 2

end MergeKind

structure Merge where
  kind : MergeKind
  delay : Literal
  sources : List Text
  destination : Text
  virtual : Option VirtualProperty
  unit : SourceUnit
  deriving DecidableEq

namespace Merge

/-- The destination, the kind and the call. -/
def head? (t : Text) : Option (Text × MergeKind × Text) := do
  let (destination, rest) ← Text.nameThen? Transmission.arrow t
  let call ← rest.restOfLine?
  let kind ← (Method.ofCall? call).bind MergeKind.ofMethod?
  some (destination, kind, call)

/-- Takes the call of `virtual` from the end of the arguments of a join. -/
def splitVirtual (kind : MergeKind) (ts : List Text) :
    Except Fault (List Text × Option VirtualProperty) :=
  match kind, ts.getLast? with
  | .join, some last =>
    if Method.virtual.isCalledBy last then do
      return (ts.dropLast, some (← VirtualProperty.ofText last))
    else .ok (ts, none)
  | _, _ => .ok (ts, none)

/-- Accepts a delay that is not below zero. -/
def checkDelay (kind : MergeKind) (delay : Literal) : Except Fault Unit :=
  if delay.asFloat?.any Float64.zero.le then .ok () else .error (.negativeDelay kind.method delay)

/-- Accepts names of declared channels. -/
def checkChannels (s : StateBlock) (names : List Text) : Except Fault Unit :=
  match names.find? fun name => (s.channel? name).isNone with
  | some name => .error (.undefinedChannel name)
  | none => .ok ()

def read (s : StateBlock) (u : SourceUnit) : Except Fault Merge :=
  match head? u.text with
  | none => .error (.methodFormat .merge)
  | some (destination, kind, call) => do
    let ts ← kind.method.arguments call
    let (ts, virtual) ← splitVirtual kind ts
    kind.method.expectAtLeast ts (kind.leastSources + 1)
    let args ← kind.method.convert ts
      (ArgumentType.number :: List.replicate (ts.length - 1) [.dataName])
    let delay ← Argument.nth Argument.literal? args 0
    checkDelay kind delay
    let sources ← (List.range' 1 (args.length - 1)).mapM (Argument.nth Argument.text? args)
    checkChannels s (sources ++ [destination])
    return ⟨kind, delay, sources, destination, virtual, u⟩

def ofUnit (s : StateBlock) (u : SourceUnit) : Except Diagnostic Merge := u.locate (read s u)

end Merge

end Overlay
