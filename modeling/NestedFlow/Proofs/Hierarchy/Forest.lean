import Mathlib.Data.List.Flatten
import NestedFlow.Proofs.Hierarchy.Descendants

/-! The nodes of a forest, one tree after another: the trees of distinct tops share no nodes, and the children of a node
stand after it in their order.
-/

set_option autoImplicit false

namespace NestedFlow.Hierarchy.Stores

open Relation

variable {hierarchy : Hierarchy} {kids : Node → List Node}

theorem exists_top (stores : hierarchy.Stores kids) (node : Node) :
    ∃ top, (∀ parent, top ∉ kids parent) ∧ (node = top ∨ Above kids top node) := by
  induction node using stores.grounded.induction with
  | _ node ih =>
    by_cases attached : ∃ parent, node ∈ kids parent
    · obtain ⟨parent, isChild⟩ := attached
      obtain ⟨top, isTop, below⟩ := ih parent isChild
      exact ⟨top, isTop, .inr ((stores.above_iff isChild top).2 (below.imp_left Eq.symm))⟩
    · exact ⟨node, fun parent isChild => attached ⟨parent, isChild⟩, .inl rfl⟩

/-- A node is in the tree of one top only. -/
theorem top_unique (stores : hierarchy.Stores kids) {first second node : Node} (isFirst : ∀ parent, first ∉ kids parent)
    (isSecond : ∀ parent, second ∉ kids parent) (belowFirst : node = first ∨ Above kids first node)
    (belowSecond : node = second ∨ Above kids second node) : first = second := by
  induction node using stores.grounded.induction with
  | _ node ih =>
    by_cases attached : ∃ parent, node ∈ kids parent
    · obtain ⟨parent, isChild⟩ := attached
      have up : ∀ {top}, (∀ parent, top ∉ kids parent) → (node = top ∨ Above kids top node) →
          parent = top ∨ Above kids top parent := by
        rintro top isTop (same | path)
        · exact absurd (same ▸ isChild) (isTop parent)
        · exact ((stores.above_iff isChild top).1 path).imp_left Eq.symm
      exact ih parent isChild (up isFirst belowFirst) (up isSecond belowSecond)
    · have alone : ∀ {top}, (node = top ∨ Above kids top node) → node = top := by
        rintro top (same | path)
        · exact same
        · obtain ⟨parent, -, holds⟩ := TransGen.tail'_iff.1 path
          exact absurd ⟨parent, holds⟩ attached
      rw [← alone belowFirst, ← alone belowSecond]

theorem nodup_flatMap_descendants (stores : hierarchy.Stores kids) {tops : List Node} (distinct : tops.Nodup)
    (areTops : ∀ top ∈ tops, ∀ parent, top ∉ kids parent) : (tops.flatMap hierarchy.descendants).Nodup := by
  rw [List.nodup_flatMap]
  refine ⟨fun top _ => stores.nodup_descendants top, ?_⟩
  apply distinct.imp_of_mem
  intro first second isFirst isSecond apart node inFirst inSecond
  exact apart (stores.top_unique (areTops first isFirst) (areTops second isSecond) (stores.mem_descendants.1 inFirst)
    (stores.mem_descendants.1 inSecond))

theorem head_sublist_descendants (stores : hierarchy.Stores kids) (nodes : List Node) :
    nodes.Sublist (nodes.flatMap hierarchy.descendants) := by
  induction nodes with
  | nil => exact List.Sublist.slnil
  | cons node rest ih =>
    rw [List.flatMap_cons, stores.descendants_eq, List.cons_append]
    exact (ih.trans (List.sublist_append_right _ _)).cons_cons node

/-- A node stands before its children, and these stand in their order. -/
theorem children_sublist_descendants (stores : hierarchy.Stores kids) (node : Node) :
    (node :: kids node).Sublist (hierarchy.descendants node) := by
  rw [stores.descendants_eq]
  exact (stores.head_sublist_descendants (kids node)).cons_cons node

/-- The tree of a node is a part of every tree that the node is in. -/
theorem descendants_sublist (stores : hierarchy.Stores kids) {above node : Node}
    (below : node = above ∨ Above kids above node) :
    (hierarchy.descendants node).Sublist (hierarchy.descendants above) := by
  have child : ∀ {parent node : Node}, Holds kids parent node →
      (hierarchy.descendants node).Sublist (hierarchy.descendants parent) := by
    intro parent node holds
    have part := (List.singleton_sublist.2 holds).flatMap hierarchy.descendants
    rw [List.flatMap_singleton] at part
    rw [stores.descendants_eq parent]
    exact part.cons parent
  rcases below with same | path
  · rw [same]
  · induction path with
    | single holds => exact child holds
    | tail _ holds ih => exact (child holds).trans ih

end NestedFlow.Hierarchy.Stores
