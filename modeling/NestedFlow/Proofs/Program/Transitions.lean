import Mathlib.Logic.Relation
import NestedFlow.Proofs.Program.Consistent

/-! Transitions: what edits that succeed make of a program.

Every edit but the replacement of an operation leaves a program that follows from the one before by transitions, with
structures that agree all along. What each transition keeps therefore holds of whatever edits lead to.
-/

set_option autoImplicit false

namespace NestedFlow.Program

/-- The program with one more node, which has no parent. -/
def grown (program : Program) (op : Op) : Program :=
  { program with
    graph := program.graph.grown op.portCount
    ops := program.ops.insert program.graph.nextNode op }

/-- The program without a node that has no children. -/
def withoutNode (program : Program) (node : Node) (hierarchy : Hierarchy) : Program :=
  { program with
    graph := program.graph.withoutNode node
    hierarchy := hierarchy
    ops := program.ops.erase node
    metadata := program.metadata.erase node }

/-- A single transition. What it does to the containment tree is left open. -/
inductive Transition (program : Program) : Program → Prop where
  | grow (op : Op) (hierarchy : Hierarchy) : Transition program { program.grown op with hierarchy := hierarchy }
  | move (hierarchy : Hierarchy) : Transition program { program with hierarchy := hierarchy }
  | remove {node : Node} (live : program.graph.contains node = true) (hierarchy : Hierarchy) :
    Transition program (program.withoutNode node hierarchy)
  | link {source target : Port} {kind : EdgeKind} (out : source.direction = .outgoing)
      (into : target.direction = .incoming) (checked : program.checkConnection source target = .ok kind) :
    Transition program { program with graph := program.graph.linked source target kind }
  | unlink (ids : List Nat) : Transition program { program with graph := program.graph.withoutEdges ids }
  | declare {node : Node} {op declared : Op} {delta : ExtensionSet} (found : program.ops.get? node = some op)
      (isDeclared : op.withDelta? delta = some declared) :
    Transition program { program with ops := program.ops.insert node declared }
  | describe (metadata : Table Node (Table String Json)) : Transition program { program with metadata := metadata }

/-- A program that comes out of another one by transitions. -/
def Follows : Program → Program → Prop :=
  Relation.ReflTransGen fun old new => Transition old new ∧ new.Consistent

theorem AgreesOn.follows {old new : Program} {kids : Node → List Node} (agrees : new.AgreesOn kids)
    (transition : Transition old new) : old.Follows new := .single ⟨transition, agrees.consistent⟩

/-- What every transition keeps, a program keeps that follows. -/
theorem Follows.preserves {invariant : Program → Prop} {old new : Program}
    (each : ∀ before after, before.Consistent → invariant before → Transition before after → after.Consistent →
      invariant after)
    (follows : old.Follows new) (consistent : old.Consistent) (held : invariant old) :
    new.Consistent ∧ invariant new := by
  induction follows with
  | refl => exact ⟨consistent, held⟩
  | tail _ step ih => exact ⟨step.2, each _ _ ih.1 ih.2 step.1 step.2⟩

theorem Follows.consistent {old new : Program} (follows : old.Follows new) (consistent : old.Consistent) :
    new.Consistent := (follows.preserves (fun _ _ _ _ _ _ => trivial) consistent trivial).1

end NestedFlow.Program
