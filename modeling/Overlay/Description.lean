import Overlay.BloomBlock

/-!
Descriptions of an overlay. A description consists of one `state` block and
one `bloom` block, in either order. A node is any construct that can be read on
its own.
-/

namespace Overlay

structure Description where
  state : StateBlock
  bloom : BloomBlock
  deriving DecidableEq

namespace Description

/-- The only block of a kind. -/
def theBlock (u : SourceUnit) (items : List Item) (c : Construct) : Except Diagnostic Item :=
  match items.filter (·.construct = c) with
  | [i] => .ok i
  | is => .error (u.diagnostic (.cardinality c is.length))

def ofText (t : Text) : Except Diagnostic Description := do
  let u ← SourceUnit.ofText t 0
  let items ← Item.list u Construct.topLevel
  let state ← theBlock u items .stateBlock
  let bloom ← theBlock u items .bloomBlock
  let state ← StateBlock.ofItem state
  return ⟨state, ← BloomBlock.ofItem state bloom⟩

end Description

inductive Node
  | declaration (d : Declaration)
  | clause (c : Clause)
  deriving DecidableEq

namespace Node

/-- Reads an item. The names in rules and event blocks are those of a `state`
block, which must be given for them. -/
def ofItem (s : Option StateBlock) (i : Item) : Except Diagnostic Node :=
  match i.construct with
  | .stateBlock | .bloomBlock => .error (i.unit.diagnostic .noConstruct)
  | .service | .scratch | .channel => (Declaration.ofItem i).map declaration
  | .eventBlock | .transmission | .trigger | .merge =>
    match s with
    | none => .error (i.unit.diagnostic (.outsideBloom i.construct))
    | some s => (Clause.ofItem s i).map clause

end Node

end Overlay
