import Overlay.Condition.Evaluation
import Overlay.Proofs.Outcome

/-!
The two connectives. A condition is a leaf or the node of a connective, and what
is done with the parts of a node is the same for both, save for a sign in the
text and a key in the intermediate code. So there is one lemma for the nodes of
both, and an induction with one case for them.
-/

namespace Overlay.Condition

inductive Connective
  | any
  | all
  deriving DecidableEq

namespace Connective

def sign : Connective → Text
  | any => orSign
  | all => andSign

/-- The character that its sign repeats. -/
def mark : Connective → Char
  | any => '|'
  | all => '&'

/-- The key of the parts in the intermediate code. -/
def key : Connective → Text
  | any => orKey
  | all => andKey

def node : Connective → List Condition → Condition
  | any => .any
  | all => .all

/-- The answer of a node from those of its parts. -/
def combine : Connective → List Bool → Bool
  | any => List.or
  | all => List.and

theorem sign_ne_nil (k : Connective) : k.sign ≠ [] := by cases k <;> decide

theorem exists_key_iff {name : Text} :
    (∃ k : Connective, k.key = name) ↔ name = andKey ∨ name = orKey := by
  constructor
  · rintro ⟨k, rfl⟩
    cases k
    · exact .inr rfl
    · exact .inl rfl
  · rintro (rfl | rfl)
    · exact ⟨all, rfl⟩
    · exact ⟨any, rfl⟩

theorem key_eq (k : Connective) : k.key = andKey ∨ k.key = orKey := exists_key_iff.1 ⟨k, rfl⟩

/-- The keys for parts begin with a hyphen, so they are no names. -/
theorem isName_key (k : Connective) : k.key.isName = false := by cases k <;> decide

end Connective

section Induction

variable {motive : Condition → Prop}

mutual

/-- What holds of leaves, and of a node when it holds of all its parts, holds of
every condition. -/
@[elab_as_elim]
theorem node_induct (node : ∀ (k : Connective) cs, (∀ c ∈ cs, motive c) → motive (k.node cs))
    (leaf : ∀ l, motive (.leaf l)) (c : Condition) : motive c :=
  match c with
  | .all cs => node .all cs (node_induct_mem node leaf cs)
  | .any cs => node .any cs (node_induct_mem node leaf cs)
  | .leaf l => leaf l

theorem node_induct_mem
    (node : ∀ (k : Connective) cs, (∀ c ∈ cs, motive c) → motive (k.node cs))
    (leaf : ∀ l, motive (.leaf l)) (cs : List Condition) : ∀ c ∈ cs, motive c :=
  match cs with
  | [] => nofun
  | c :: cs =>
      List.forall_mem_cons.2 ⟨node_induct node leaf c, node_induct_mem node leaf cs⟩

end

end Induction

/-! The parts of a node as a list. -/

theorem leavesOf_eq_flatMap (cs : List Condition) : leavesOf cs = cs.flatMap leaves := by
  induction cs with
  | nil => rfl
  | cons c cs ih => rw [leavesOf, ih, List.flatMap_cons]

theorem leaves_node (k : Connective) (cs : List Condition) :
    (k.node cs).leaves = cs.flatMap leaves := by
  cases k <;> exact leavesOf_eq_flatMap cs

theorem mem_leaves_node {k : Connective} {cs : List Condition} {l : Leaf} :
    l ∈ (k.node cs).leaves ↔ ∃ c ∈ cs, l ∈ c.leaves := by
  rw [leaves_node, List.mem_flatMap]

theorem allHold_eq_and (record : Json) (cs : List Condition) :
    allHold record cs = (cs.map (holds record)).and := by
  induction cs with
  | nil => rfl
  | cons c cs ih => rw [allHold, ih, List.map_cons, List.and_cons]

theorem anyHolds_eq_or (record : Json) (cs : List Condition) :
    anyHolds record cs = (cs.map (holds record)).or := by
  induction cs with
  | nil => rfl
  | cons c cs ih => rw [anyHolds, ih, List.map_cons, List.or_cons]

theorem holds_node (k : Connective) (cs : List Condition) (record : Json) :
    (k.node cs).holds record = k.combine (cs.map (holds record)) := by
  cases k with
  | any => exact anyHolds_eq_or record cs
  | all => exact allHold_eq_and record cs

theorem toJsons_eq_map (cs : List Condition) : toJsons cs = cs.map toJson := by
  induction cs with
  | nil => rfl
  | cons c cs ih => rw [toJsons, ih, List.map_cons]

theorem toJson_node (k : Connective) (cs : List Condition) :
    (k.node cs).toJson = .object [(k.key, .array (cs.map toJson))] := by
  cases k <;> exact congrArg (fun items => Json.object [(_, .array items)]) (toJsons_eq_map cs)

theorem ofJsons_eq_mapM (vs : List Json) : ofJsons vs = vs.mapM ofJson := by
  induction vs with
  | nil => rfl
  | cons v vs ih => rw [ofJsons, ih, List.mapM_cons]

/-- Under the key of a connective stand the parts of its node. -/
theorem ofJson_key {k : Connective} {items : List Json} (h : 2 ≤ items.length) :
    ofJson (.object [(k.key, .array items)]) = (items.mapM ofJson).map k.node := by
  have hnode : (if k.key = andKey then all else any) = k.node := by cases k <;> rfl
  rw [ofJson, if_pos k.key_eq, if_pos h, hnode, ofJsons_eq_mapM]

end Overlay.Condition
