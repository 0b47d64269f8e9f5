import NestedFlow.Proofs.Program.Transitions

/-! What every change does to a program whose structures agree: it succeeds and they agree again, or it changes
nothing. -/

set_option autoImplicit false

namespace NestedFlow.Program

open Hierarchy

variable {program : Program} {kids : Node → List Node} {α : Type}

theorem run_onGraph_of_ok {change : Change PortGraph α} {answer : α} {graph : PortGraph}
    (run : change.run program.graph = .ok answer graph) :
    (onGraph change).run program = .ok answer { program with graph := graph } := by
  rw [onGraph, Change.run_within, run]

theorem run_onGraph_of_error {change : Change PortGraph α} {error : Error}
    (run : change.run program.graph = .error error program.graph) :
    (onGraph change).run program = .error error program := by
  rw [onGraph, Change.run_within, run]

theorem run_onHierarchy_of_ok {change : Change Hierarchy α} {answer : α} {hierarchy : Hierarchy}
    (run : change.run program.hierarchy = .ok answer hierarchy) :
    (onHierarchy change).run program = .ok answer { program with hierarchy := hierarchy } := by
  rw [onHierarchy, Change.run_within, run]

theorem run_onHierarchy_of_error {change : Change Hierarchy α} {error : Error}
    (run : change.run program.hierarchy = .error error program.hierarchy) :
    (onHierarchy change).run program = .error error program := by
  rw [onHierarchy, Change.run_within, run]

theorem checkNotRoot_eq_ok_iff {node : Node} : program.checkNotRoot node = .ok () ↔ node ≠ program.root := by
  rw [checkNotRoot]
  split <;> simp_all [failAt]

/-! ### Adding nodes -/

theorem run_addNode (program : Program) (op : Op) :
    (addNode op).run program = .ok program.graph.nextNode (program.grown op) := by
  rw [addNode, Change.run_bind_of_ok (run_onGraph_of_ok (PortGraph.run_addNode program.graph op.portCount))]
  rfl

namespace AgreesOn

theorem contains_grown_of_contains (agrees : program.AgreesOn kids) (op : Op) {node : Node}
    (live : program.graph.contains node = true) : (program.grown op).graph.contains node = true :=
  (agrees.graph.contains_grown op.portCount node).trans (by rw [live, Bool.or_true])

theorem grown (agrees : program.AgreesOn kids) (op : Op) : (program.grown op).AgreesOn kids := by
  have live : ∀ node, program.graph.contains node = true → (program.grown op).graph.contains node = true :=
    fun _ => agrees.contains_grown_of_contains op
  constructor
  case graph => exact agrees.graph.grown op.portCount
  case stores => exact agrees.stores
  case ops_iff =>
    intro node
    refine Iff.trans ?_ (by rw [Program.grown, agrees.graph.contains_grown])
    rw [Bool.or_eq_true, decide_eq_true_iff, ← agrees.ops_iff, Program.grown, Table.keys_insert]
    split
    · rename_i present
      constructor
      · exact .inr
      · rintro (same | mem)
        · rwa [same]
        · exact mem
    · rw [List.mem_append, List.mem_singleton, or_comm]
  case metadata_live => exact fun node mem => live node (agrees.metadata_live node mem)
  case kids_live =>
    intro parent node mem
    obtain ⟨liveNode, liveParent⟩ := agrees.kids_live parent node mem
    exact ⟨live node liveNode, live parent liveParent⟩
  case root_live => exact live program.root agrees.root_live
  case root_top => exact agrees.root_top
  case portTotals =>
    intro node found get direction
    change (program.ops.insert program.graph.nextNode op).get? node = some found at get
    rw [Table.get?_insert_eq] at get
    rw [Program.grown, agrees.graph.portsOf_grown]
    split at get
    · rename_i same
      rw [Option.some.injEq] at get
      rw [if_pos same, List.length_replicate, get]
    · rename_i apart
      rw [if_neg apart]
      exact agrees.portTotals node found get direction

/-- A live node other than the root may be put among the children of a live one. -/
theorem inserted (agrees : program.AgreesOn kids) {hierarchy : Hierarchy} {before after : List Node}
    {node parent : Node} (change : Inserted program.hierarchy hierarchy before node after parent)
    (split : kids parent = before ++ after) (attachable : Attachable kids node parent)
    (liveNode : program.graph.contains node = true) (liveParent : program.graph.contains parent = true)
    (notRoot : node ≠ program.root) :
    { program with hierarchy := hierarchy }.AgreesOn (withKids kids parent (before ++ node :: after)) := by
  apply agrees.withHierarchy (agrees.stores.inserted change split attachable.1 attachable.2.1 attachable.2.2)
  · intro above child mem
    rw [withKids] at mem
    split at mem
    · rename_i here
      rw [here]
      refine ⟨?_, liveParent⟩
      rw [List.mem_append, List.mem_cons] at mem
      rcases mem with earlier | same | later
      · exact (agrees.kids_live parent child (by rw [split]; exact List.mem_append_left _ earlier)).1
      · rwa [same]
      · exact (agrees.kids_live parent child (by rw [split]; exact List.mem_append_right _ later)).1
    · exact agrees.kids_live above child mem
  · intro above mem
    rw [withKids] at mem
    split at mem
    · rw [List.mem_append, List.mem_cons] at mem
      rcases mem with earlier | same | later
      · exact agrees.root_top parent (by rw [split]; exact List.mem_append_left _ earlier)
      · exact notRoot same.symm
      · exact agrees.root_top parent (by rw [split]; exact List.mem_append_right _ later)
    · exact agrees.root_top above mem

theorem run_pushChild (agrees : program.AgreesOn kids) {node parent : Node} (attachable : Attachable kids node parent)
    (liveNode : program.graph.contains node = true) (liveParent : program.graph.contains parent = true)
    (notRoot : node ≠ program.root) :
    ∃ hierarchy, (onHierarchy (pushChild node parent)).run program = .ok () { program with hierarchy := hierarchy } ∧
      { program with hierarchy := hierarchy }.AgreesOn (withKids kids parent (kids parent ++ [node])) := by
  obtain ⟨hierarchy, run, change⟩ := agrees.stores.run_pushChild attachable
  exact ⟨hierarchy, run_onHierarchy_of_ok run,
    agrees.inserted change (List.append_nil _).symm attachable liveNode liveParent notRoot⟩

theorem run_insertBefore (agrees : program.AgreesOn kids) {node parent sibling : Node} {before after : List Node}
    (split : kids parent = before ++ sibling :: after) (attachable : Attachable kids node parent)
    (live : program.graph.contains node = true) (notRoot : node ≠ program.root) :
    ∃ hierarchy, (onHierarchy (insertBefore node sibling)).run program =
        .ok () { program with hierarchy := hierarchy } ∧
      { program with hierarchy := hierarchy }.AgreesOn (withKids kids parent (before ++ node :: sibling :: after)) := by
  have isChild : sibling ∈ kids parent := by
    rw [split]
    exact List.mem_append_right before List.mem_cons_self
  obtain ⟨hierarchy, run, change⟩ := agrees.stores.run_insertBefore split attachable
  exact ⟨hierarchy, run_onHierarchy_of_ok run,
    agrees.inserted change split attachable live (agrees.kids_live parent sibling isChild).2 notRoot⟩

theorem detached (agrees : program.AgreesOn kids) {hierarchy : Hierarchy} {node : Node}
    (stores : hierarchy.Stores (withoutChild kids node)) :
    { program with hierarchy := hierarchy }.AgreesOn (withoutChild kids node) := by
  apply agrees.withHierarchy stores
  · exact fun above child mem => agrees.kids_live above child (List.mem_of_mem_erase mem)
  · exact fun above mem => agrees.root_top above (List.mem_of_mem_erase mem)

/-- A node that is not live yet can be attached to any live one. -/
theorem attachable_of_not_contains (agrees : program.AgreesOn kids) {node parent : Node}
    (dead : program.graph.contains node = false) (live : program.graph.contains parent = true) :
    Attachable kids node parent := by
  refine ⟨agrees.not_mem_kids_of_not_contains dead, ?_, ?_⟩
  · rintro rfl
    rw [live] at dead
    cases dead
  · intro above
    obtain ⟨child, holds, -⟩ := Relation.TransGen.head'_iff.1 above
    rw [Holds, agrees.kids_of_not_contains dead] at holds
    cases holds

theorem nextNode_ne_root (agrees : program.AgreesOn kids) : program.graph.nextNode ≠ program.root := by
  intro same
  have dead := agrees.graph.contains_nextNode
  rw [same, agrees.root_live] at dead
  cases dead

theorem contains_grown_nextNode (agrees : program.AgreesOn kids) (op : Op) :
    (program.grown op).graph.contains program.graph.nextNode = true :=
  (agrees.graph.contains_grown op.portCount _).trans (by simp)

theorem run_addChild (agrees : program.AgreesOn kids) {parent : Node} (live : program.graph.contains parent = true)
    (op : Op) :
    ∃ hierarchy, (addChild parent op).run program =
        .ok program.graph.nextNode { program.grown op with hierarchy := hierarchy } ∧
      { program.grown op with hierarchy := hierarchy }.AgreesOn
        (withKids kids parent (kids parent ++ [program.graph.nextNode])) := by
  have attachable := agrees.attachable_of_not_contains agrees.graph.contains_nextNode live
  obtain ⟨hierarchy, run, kept⟩ := (agrees.grown op).run_pushChild attachable (agrees.contains_grown_nextNode op)
    (agrees.contains_grown_of_contains op live) agrees.nextNode_ne_root
  refine ⟨hierarchy, ?_, kept⟩
  simp only [addChild, Change.run_ask_bind, agrees.checkNode_eq_ok_iff.2 live]
  rw [Change.run_bind_of_ok (run_addNode program op), Change.run_bind_of_ok run]
  rfl

theorem run_addBefore (agrees : program.AgreesOn kids) {parent sibling : Node} {before after : List Node}
    (split : kids parent = before ++ sibling :: after) (op : Op) :
    ∃ hierarchy, (addBefore sibling op).run program =
        .ok program.graph.nextNode { program.grown op with hierarchy := hierarchy } ∧
      { program.grown op with hierarchy := hierarchy }.AgreesOn
        (withKids kids parent (before ++ program.graph.nextNode :: sibling :: after)) := by
  have isChild : sibling ∈ kids parent := by
    rw [split]
    exact List.mem_append_right before List.mem_cons_self
  obtain ⟨liveSibling, liveParent⟩ := agrees.kids_live parent sibling isChild
  have attachable := agrees.attachable_of_not_contains agrees.graph.contains_nextNode liveParent
  obtain ⟨hierarchy, run, kept⟩ := (agrees.grown op).run_insertBefore split attachable
    (agrees.contains_grown_nextNode op) agrees.nextNode_ne_root
  have attached : program.hierarchy.parent? sibling = some parent := (agrees.stores.parent_iff _ _).2 isChild
  refine ⟨hierarchy, ?_, kept⟩
  simp only [addBefore, Change.run_ask_bind, agrees.checkNode_eq_ok_iff.2 liveSibling, Change.run_get_bind, attached,
    Option.isNone_some, Bool.false_eq_true, if_false]
  rw [Change.run_bind_of_ok (run_addNode program op), Change.run_bind_of_ok run]
  rfl

/-! ### Moving nodes -/

theorem run_setParent (agrees : program.AgreesOn kids) {node parent : Node}
    (liveNode : program.graph.contains node = true) (liveParent : program.graph.contains parent = true)
    (notRoot : node ≠ program.root) (attachable : Attachable kids node parent) :
    ∃ hierarchy, (setParent node parent).run program = .ok () { program with hierarchy := hierarchy } ∧
      { program with hierarchy := hierarchy }.AgreesOn (withKids kids parent (kids parent ++ [node])) := by
  obtain ⟨hierarchy, run, kept⟩ := agrees.run_pushChild attachable liveNode liveParent notRoot
  refine ⟨hierarchy, ?_, kept⟩
  simp only [setParent, Change.run_ask_bind, agrees.checkNode_eq_ok_iff.2 liveNode,
    agrees.checkNode_eq_ok_iff.2 liveParent, checkNotRoot_eq_ok_iff.2 notRoot]
  exact run

/-! ### Every change settles -/

theorem settles_addNode (agrees : program.AgreesOn kids) (op : Op) : (addNode op).Settles program.Follows program :=
  Change.settles_of_ok (run_addNode program op) ((agrees.grown op).follows (.grow op program.hierarchy))

theorem settles_addChild (agrees : program.AgreesOn kids) (parent : Node) (op : Op) :
    (addChild parent op).Settles program.Follows program := by
  cases live : program.graph.contains parent with
  | true =>
    obtain ⟨hierarchy, run, kept⟩ := agrees.run_addChild live op
    exact Change.settles_of_ok run (kept.follows (.grow op hierarchy))
  | false =>
    apply Change.settles_ask_bind
    intro _ checked
    rw [agrees.checkNode_eq_ok_iff, live] at checked
    cases checked

theorem settles_addBefore (agrees : program.AgreesOn kids) (sibling : Node) (op : Op) :
    (addBefore sibling op).Settles program.Follows program := by
  cases above : program.hierarchy.parent? sibling with
  | some parent =>
    obtain ⟨before, after, split⟩ := List.append_of_mem ((agrees.stores.parent_iff sibling parent).1 above)
    obtain ⟨hierarchy, run, kept⟩ := agrees.run_addBefore split op
    exact Change.settles_of_ok run (kept.follows (.grow op hierarchy))
  | none =>
    apply Change.settles_ask_bind
    intro _ _
    apply Change.settles_of_error
    simp only [Change.run_get_bind, above, Option.isNone_none, if_true]
    rfl

theorem settles_setParent (agrees : program.AgreesOn kids) (node parent : Node) :
    (setParent node parent).Settles program.Follows program := by
  apply Change.settles_ask_bind
  intro _ liveNode
  apply Change.settles_ask_bind
  intro _ liveParent
  apply Change.settles_ask_bind
  intro _ notRoot
  by_cases attachable : Attachable kids node parent
  · obtain ⟨hierarchy, run, kept⟩ := agrees.run_pushChild attachable (agrees.checkNode_eq_ok_iff.1 liveNode)
      (agrees.checkNode_eq_ok_iff.1 liveParent) (checkNotRoot_eq_ok_iff.1 notRoot)
    exact Change.settles_of_ok run (kept.follows (.move hierarchy))
  · obtain ⟨error, run⟩ := agrees.stores.run_pushChild_of_not attachable
    exact Change.settles_of_error (run_onHierarchy_of_error run)

theorem settles_detach (agrees : program.AgreesOn kids) (node : Node) :
    (detach node).Settles program.Follows program := by
  apply Change.settles_ask_bind
  intro _ _
  obtain ⟨hierarchy, run, kept⟩ := agrees.stores.exists_detach node
  exact Change.settles_of_ok (run_onHierarchy_of_ok run) ((agrees.detached kept).follows (.move hierarchy))

/-- A node is taken from its siblings first, and may then be put anywhere but below itself. -/
theorem run_detach_insertBefore (agrees : program.AgreesOn kids) {node sibling parent : Node}
    (live : program.graph.contains node = true) (notRoot : node ≠ program.root)
    (above : program.hierarchy.parent? sibling = some parent)
    (allowed : ¬ (node = sibling ∨ program.hierarchy.contains node parent = true)) :
    ∃ former taken moved,
      (onHierarchy (Hierarchy.detach node)).run program = .ok former { program with hierarchy := taken } ∧
      (onHierarchy (insertBefore node sibling)).run { program with hierarchy := taken } =
        .ok () { program with hierarchy := moved } ∧
      { program with hierarchy := moved }.Consistent := by
  obtain ⟨apart, notParent, outside⟩ : node ≠ sibling ∧ node ≠ parent ∧ ¬ Above kids node parent := by
    rwa [not_or, agrees.stores.contains_iff, not_or] at allowed
  obtain ⟨taken, detached, kept⟩ := agrees.stores.exists_detach node
  have agreesTaken := agrees.detached kept
  have stays : sibling ∈ withoutChild kids node parent :=
    (List.mem_erase_of_ne fun same => apart same.symm).2 ((agrees.stores.parent_iff sibling parent).1 above)
  obtain ⟨before, after, split⟩ := List.append_of_mem stays
  have attachable : Attachable (withoutChild kids node) node parent := by
    refine ⟨fun other mem => ?_, notParent, fun path => outside ?_⟩
    · exact (agrees.stores.distinct other).not_mem_erase mem
    · exact above_mono (fun _ _ mem => List.mem_of_mem_erase mem) path
  obtain ⟨moved, run, result⟩ := agreesTaken.run_insertBefore split attachable live notRoot
  exact ⟨_, taken, moved, run_onHierarchy_of_ok detached, run, result.consistent⟩

theorem settles_moveBefore (agrees : program.AgreesOn kids) (node sibling : Node) :
    (moveBefore node sibling).Settles program.Follows program := by
  apply Change.settles_ask_bind
  intro _ liveNode
  apply Change.settles_ask_bind
  intro _ _
  apply Change.settles_ask_bind
  intro _ notRoot
  cases above : program.hierarchy.parent? sibling with
  | none =>
    apply Change.settles_of_error
    simp only [Change.run_get_bind, above]
    rfl
  | some parent =>
    by_cases refused : node = sibling ∨ program.hierarchy.contains node parent = true
    · apply Change.settles_of_error
      simp only [Change.run_get_bind, above, if_pos refused]
      rfl
    · obtain ⟨former, taken, moved, detached, run, result⟩ := agrees.run_detach_insertBefore
        (agrees.checkNode_eq_ok_iff.1 liveNode) (checkNotRoot_eq_ok_iff.1 notRoot) above refused
      have follows : program.Follows { program with hierarchy := moved } := .single ⟨.move moved, result⟩
      refine @Change.settles_of_ok Program Unit program.Follows program _ () _ ?_ follows
      simp only [Change.run_get_bind, above, if_neg refused]
      exact (Change.run_bind_of_ok detached).trans run

end AgreesOn

end NestedFlow.Program
