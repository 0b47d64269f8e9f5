import NestedFlow.Proofs.Program.Steps

/-! Removing single nodes and whole subtrees. -/

set_option autoImplicit false

namespace NestedFlow

open Hierarchy

namespace Program

/-- The program without some nodes, which are taken away one after another. -/
def withoutAll (program : Program) (nodes : List Node) (hierarchy : Hierarchy) : Program :=
  { program with
    graph := nodes.foldl PortGraph.withoutNode program.graph
    hierarchy := hierarchy
    ops := program.ops.eraseAll nodes
    metadata := program.metadata.eraseAll nodes }

theorem withoutAll_nil (program : Program) : program.withoutAll [] program.hierarchy = program := by
  rw [withoutAll, Table.eraseAll_nil, Table.eraseAll_nil, List.foldl_nil]

theorem withoutAll_cons (program : Program) (node : Node) (rest : List Node) (between hierarchy : Hierarchy) :
    (program.withoutNode node between).withoutAll rest hierarchy = program.withoutAll (node :: rest) hierarchy := by
  simp only [withoutAll, withoutNode, Table.erase_eq_eraseAll, Table.eraseAll_eraseAll, List.singleton_append,
    List.foldl_cons]

variable {program : Program} {kids : Node → List Node}

namespace AgreesOn

theorem withoutNode (agrees : program.AgreesOn kids) {node : Node} (live : program.graph.contains node = true)
    (notRoot : node ≠ program.root) (childless : kids node = []) {hierarchy : Hierarchy}
    (stores : hierarchy.Stores (withoutChild kids node)) :
    (program.withoutNode node hierarchy).AgreesOn (withoutChild kids node) := by
  have contains : ∀ other, (program.withoutNode node hierarchy).graph.contains other = true ↔
      program.graph.contains other = true ∧ other ≠ node := by
    intro other
    rw [Program.withoutNode, PortGraph.contains_withoutNode live, Bool.and_eq_true, decide_eq_true_iff]
  constructor
  case graph => exact agrees.graph.withoutNode live
  case stores => exact stores
  case ops_iff =>
    intro other
    rw [contains, ← agrees.ops_iff, Table.mem_keys_iff_get?, Table.mem_keys_iff_get?, Program.withoutNode]
    simp only [Table.get?_erase_eq]
    by_cases same : other = node <;> simp [same]
  case metadata_live =>
    intro other mem
    rw [Table.mem_keys_iff_get?] at mem
    obtain ⟨value, get⟩ := mem
    change (program.metadata.erase node).get? other = some value at get
    rw [Table.get?_erase_eq] at get
    split at get
    · cases get
    · rename_i apart
      exact (contains other).2 ⟨agrees.metadata_live other (Table.mem_keys_of_get? get), apart⟩
  case kids_live =>
    -- the node is no child any more, and a parent it never was
    intro above child mem
    obtain ⟨liveChild, liveAbove⟩ := agrees.kids_live above child (List.mem_of_mem_erase mem)
    refine ⟨(contains child).2 ⟨liveChild, ?_⟩, (contains above).2 ⟨liveAbove, ?_⟩⟩
    · rintro rfl
      exact (agrees.stores.distinct above).not_mem_erase mem
    · rintro rfl
      have isChild := List.mem_of_mem_erase mem
      rw [childless] at isChild
      cases isChild
  case root_live => exact (contains program.root).2 ⟨agrees.root_live, fun same => notRoot same.symm⟩
  case root_top => exact fun above mem => agrees.root_top above (List.mem_of_mem_erase mem)
  case portTotals =>
    intro other op get direction
    change (program.ops.erase node).get? other = some op at get
    rw [Table.get?_erase_eq] at get
    split at get
    · cases get
    · rename_i apart
      rw [Program.withoutNode, PortGraph.portsOf_withoutNode live, if_neg apart, List.length_map]
      exact agrees.portTotals other op get direction

theorem run_removeNode (agrees : program.AgreesOn kids) {node : Node} (live : program.graph.contains node = true)
    (notRoot : node ≠ program.root) (childless : kids node = []) :
    ∃ op hierarchy, (removeNode node).run program = .ok op (program.withoutNode node hierarchy) ∧
      (program.withoutNode node hierarchy).AgreesOn (withoutChild kids node) := by
  obtain ⟨op, found⟩ := agrees.get?_of_contains live
  obtain ⟨hierarchy, run, kept⟩ := agrees.stores.exists_forget childless
  have none : program.hierarchy.hasChildren node = false := by
    rw [agrees.stores.hasChildren_eq, childless]
    rfl
  refine ⟨op, hierarchy, ?_, agrees.withoutNode live notRoot childless kept⟩
  simp only [removeNode, Change.run_ask_bind, agrees.checkNode_eq_ok_iff.2 live, checkNotRoot_eq_ok_iff.2 notRoot,
    Change.run_get_bind, none, Bool.false_eq_true, if_false]
  rw [Change.run_bind_of_ok (run_onHierarchy_of_ok run),
    Change.run_bind_of_ok (@run_onGraph_of_ok { program with hierarchy := hierarchy } _ _ _ _
      (PortGraph.run_removeNode agrees.graph live))]
  simp only [Change.run_modify_bind, Change.run_ask_bind, entry, found, require, Outcome.pure_eq, Change.run_pure]
  rfl

theorem settles_removeNode (agrees : program.AgreesOn kids) (node : Node) :
    (removeNode node).Settles program.Follows program := by
  by_cases removable : (program.graph.contains node = true ∧ node ≠ program.root) ∧ kids node = []
  · obtain ⟨⟨live, notRoot⟩, childless⟩ := removable
    obtain ⟨op, hierarchy, run, kept⟩ := agrees.run_removeNode live notRoot childless
    exact Change.settles_of_ok run (kept.follows (.remove live hierarchy))
  · apply Change.settles_ask_bind
    intro _ live
    apply Change.settles_ask_bind
    intro _ notRoot
    have some : program.hierarchy.hasChildren node = true := by
      rw [agrees.stores.hasChildren_eq]
      cases list : kids node with
      | nil => exact absurd ⟨⟨agrees.checkNode_eq_ok_iff.1 live, checkNotRoot_eq_ok_iff.1 notRoot⟩, list⟩ removable
      | cons first rest => rfl
    apply Change.settles_of_error
    simp only [Change.run_get_bind, some, if_true]
    rfl

/-- Nodes can be removed one after another if every child is among them and stands before its parent. -/
theorem run_removeAll {nodes : List Node} (agrees : program.AgreesOn kids)
    (live : ∀ node ∈ nodes, program.graph.contains node = true ∧ node ≠ program.root) (nodup : nodes.Nodup)
    (closed : ∀ node ∈ nodes, ∀ child ∈ kids node, child ∈ nodes)
    (ordered : nodes.Pairwise fun earlier later => later ∉ kids earlier) :
    ∃ hierarchy, (nodes.forM fun node => do let _ ← removeNode node).run program =
        .ok () (program.withoutAll nodes hierarchy) ∧
      (program.withoutAll nodes hierarchy).AgreesOn (nodes.foldl withoutChild kids) ∧
        program.Follows (program.withoutAll nodes hierarchy) := by
  induction nodes generalizing program kids with
  | nil =>
    refine ⟨program.hierarchy, ?_⟩
    rw [withoutAll_nil]
    exact ⟨rfl, agrees, .refl⟩
  | cons node rest ih =>
    rw [List.nodup_cons] at nodup
    rw [List.pairwise_cons] at ordered
    obtain ⟨liveNode, notRoot⟩ := live node List.mem_cons_self
    have childless : kids node = [] := by
      apply List.eq_nil_iff_forall_not_mem.2
      intro child isChild
      -- a child would be this node itself, or one that is removed after it
      rcases List.mem_cons.1 (closed node List.mem_cons_self child isChild) with same | later
      · rw [same] at isChild
        exact agrees.stores.not_above_self node (.single isChild)
      · exact ordered.1 child later isChild
    obtain ⟨op, between, run, kept⟩ := agrees.run_removeNode liveNode notRoot childless
    have further := ih kept
      (fun other mem => by
        obtain ⟨alive, differs⟩ := live other (List.mem_cons_of_mem _ mem)
        have apart : other ≠ node := fun same => nodup.1 (same ▸ mem)
        refine ⟨?_, differs⟩
        rw [Program.withoutNode, PortGraph.contains_withoutNode liveNode, alive, Bool.true_and, decide_eq_true_iff]
        exact apart)
      nodup.2
      (fun other mem child isChild => by
        have apart : child ≠ node := by
          rintro rfl
          exact (agrees.stores.distinct other).not_mem_erase isChild
        rcases List.mem_cons.1 (closed other (List.mem_cons_of_mem _ mem) child (List.mem_of_mem_erase isChild)) with
          same | later
        · exact absurd same apart
        · exact later)
      (ordered.2.imp fun absent mem => absent (List.mem_of_mem_erase mem))
    obtain ⟨hierarchy, more, result, follows⟩ := further
    have step : (do let _ ← removeNode node : Change Program Unit).run program =
        .ok () (program.withoutNode node between) := Change.run_bind_of_ok run
    rw [withoutAll_cons] at more result follows
    exact ⟨hierarchy, (Change.run_bind_of_ok step).trans more, result,
      (kept.follows (.remove liveNode between)).trans follows⟩

/-- A subtree is removed as a whole. -/
theorem run_removeSubtree (agrees : program.AgreesOn kids) {node : Node}
    (live : program.graph.contains node = true) (notRoot : node ≠ program.root) :
    let nodes := (program.hierarchy.descendants node).reverse
    ∃ hierarchy, (removeSubtree node).run program = .ok () (program.withoutAll nodes hierarchy) ∧
      (program.withoutAll nodes hierarchy).AgreesOn (nodes.foldl withoutChild kids) ∧
        program.Follows (program.withoutAll nodes hierarchy) := by
  have each : ∀ below ∈ (program.hierarchy.descendants node).reverse,
      program.graph.contains below = true ∧ below ≠ program.root := by
    intro below mem
    rw [List.mem_reverse, agrees.stores.mem_descendants] at mem
    rcases mem with same | path
    · exact same ▸ ⟨live, notRoot⟩
    · obtain ⟨parent, -, holds⟩ := Relation.TransGen.tail'_iff.1 path
      exact ⟨(agrees.kids_live parent below holds).1, fun same => agrees.root_top parent (same ▸ holds)⟩
  -- from the leaves up, which is a pre-order backwards
  obtain ⟨hierarchy, run, kept⟩ := agrees.run_removeAll each
    (List.nodup_reverse.2 (agrees.stores.nodup_descendants node))
    (fun above mem child isChild =>
      List.mem_reverse.2 (agrees.stores.mem_descendants_of_child (List.mem_reverse.1 mem) isChild))
    (List.pairwise_reverse.2 ((agrees.stores.descendants_ordered node).imp fun apart isChild =>
      apart (.single isChild)))
  refine ⟨hierarchy, ?_, kept⟩
  simp only [removeSubtree, Change.run_ask_bind, agrees.checkNode_eq_ok_iff.2 live,
    checkNotRoot_eq_ok_iff.2 notRoot, Change.run_get_bind]
  exact run

theorem settles_removeSubtree (agrees : program.AgreesOn kids) (node : Node) :
    (removeSubtree node).Settles program.Follows program := by
  by_cases removable : program.graph.contains node = true ∧ node ≠ program.root
  · obtain ⟨_, run, -, follows⟩ := agrees.run_removeSubtree removable.1 removable.2
    exact Change.settles_of_ok run follows
  · apply Change.settles_ask_bind
    intro _ live
    apply Change.settles_ask_bind
    intro _ notRoot
    exact absurd ⟨agrees.checkNode_eq_ok_iff.1 live, checkNotRoot_eq_ok_iff.1 notRoot⟩ removable

end AgreesOn

end Program

end NestedFlow
