import NestedFlow.Proofs.Hierarchy.Refinement

/-! Listing what is below a node, from a stack of nodes whose trees are still to be listed.

After any number of steps the nodes that were listed and the trees on the stack make up the tree that the loop began
with. A forest is finite and has no cycles, so the stack is empty in the end.
-/

set_option autoImplicit false

namespace NestedFlow.Hierarchy

/-- What is listed below a node is its tree in pre-order, and every loop on the way comes to an end. -/
structure ListsTree (hierarchy : Hierarchy) (node : Node) : Prop where
  /-- The stack is empty once these nodes are listed, -/
  ends : Preorder hierarchy.children [node] (hierarchy.descendants node)
  /-- and until then every step lists the next one. -/
  steps : ∀ steps, hierarchy.preorder steps [node] = (hierarchy.descendants node).take steps
  siblings : Walk hierarchy.nexts (hierarchy.firstChild? node) (hierarchy.children node)
  upwards : Walk hierarchy.parents (hierarchy.parent? node) (hierarchy.ancestors node)
  unfolds : hierarchy.descendants node = node :: (hierarchy.children node).flatMap hierarchy.descendants
  distinct : (hierarchy.descendants node).Nodup
  ordered : (hierarchy.descendants node).Pairwise fun earlier later => hierarchy.isAncestor later earlier = false
  mem_iff : ∀ other, other ∈ hierarchy.descendants node ↔ hierarchy.contains node other = true

namespace Stores

variable {hierarchy : Hierarchy} {kids : Node → List Node}

/-- One step takes a node from the trees on the stack, and leaves those of its children and of the rest. -/
theorem flatMap_descendants_cons (stores : hierarchy.Stores kids) (node : Node) (stack : List Node) :
    (node :: stack).flatMap hierarchy.descendants =
      node :: (hierarchy.children node ++ stack).flatMap hierarchy.descendants := by
  rw [List.flatMap_cons, stores.descendants_eq, stores.children_eq, List.flatMap_append, List.cons_append]

/-- Some steps list as many nodes of the trees on the stack, in their order. -/
theorem preorder_eq_take (stores : hierarchy.Stores kids) (steps : Nat) (stack : List Node) :
    hierarchy.preorder steps stack = (stack.flatMap hierarchy.descendants).take steps := by
  induction steps generalizing stack with
  | zero => rw [preorder, List.take_zero]
  | succ steps ih =>
    cases stack with
    | nil => rw [preorder, List.flatMap_nil, List.take_nil]
    | cons node stack => rw [preorder, ih, stores.flatMap_descendants_cons, List.take_succ_cons]

theorem listsTree (stores : hierarchy.Stores kids) (node : Node) : hierarchy.ListsTree node := by
  have same : hierarchy.children = kids := funext stores.children_eq
  constructor
  case ends =>
    obtain ⟨listed, below, -⟩ := stores.exists_preorder node
    rw [same, stores.descendants_of_preorder below]
    apply Preorder.step
    rwa [List.append_nil]
  case steps =>
    intro steps
    rw [stores.preorder_eq_take, List.flatMap_singleton]
  case siblings =>
    rw [same]
    exact stores.walk_kids node
  case upwards => exact stores.walk_ancestors node
  case unfolds => rw [same, ← stores.descendants_eq]
  case distinct => exact stores.nodup_descendants node
  case ordered =>
    apply (stores.descendants_ordered node).imp
    intro earlier later apart
    rwa [← Bool.not_eq_true, stores.isAncestor_iff]
  case mem_iff =>
    intro other
    rw [stores.mem_descendants, stores.contains_iff, eq_comm]

end Stores

/-- Whatever edits build a hierarchy from nothing, failing ones included, it lists every tree in pre-order. -/
theorem lists_trees (edits : List Edit) (node : Node) :
    (edits.foldl (fun hierarchy edit => edit.apply hierarchy) empty).ListsTree node := by
  obtain ⟨kids, stores⟩ := exists_stores_of_edits edits
  exact stores.listsTree node

end NestedFlow.Hierarchy
