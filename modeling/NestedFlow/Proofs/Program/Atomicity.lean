import NestedFlow.Proofs.PortGraph.Integrity
import NestedFlow.Proofs.Program.Agreement

/-! Changes of several steps happen as a whole or not at all.

Such a change asks all its questions first. Once it has changed anything, none of its further steps can fail, in
whatever state the steps before have left.
-/

set_option autoImplicit false

namespace NestedFlow

namespace Program

/-- Changes that fail leave the program as it was: graph, containment, operations and metadata. -/
structure FailsUnchanged (program : Program) : Prop where
  addChild : ∀ parent op, (addChild parent op).Atomic program
  addBefore : ∀ sibling op, (addBefore sibling op).Atomic program
  setParent : ∀ node parent, (setParent node parent).Atomic program
  moveBefore : ∀ node sibling, (moveBefore node sibling).Atomic program
  removeNode : ∀ node, (removeNode node).Atomic program
  removeSubtree : ∀ node, (removeSubtree node).Atomic program
  replaceOp : ∀ node op, (replaceOp node op).Atomic program
  connect : ∀ source sourceOffset target targetOffset,
    (connect source sourceOffset target targetOffset).Atomic program
  addOrder : ∀ source target, (addOrder source target).Atomic program
  inferExtensions : inferExtensions.Atomic program
  setNumPorts : ∀ node inputs outputs, (PortGraph.setNumPorts node inputs outputs).Atomic program.graph

/-- Once the questions of a change are answered its steps succeed, each in the state that those before it leave. -/
structure StepsSucceed (program : Program) : Prop where
  addNode_pushChild : ∀ parent op, program.checkNode parent = .ok () → ∃ node added attached,
    (addNode op).run program = .ok node added ∧
    (onHierarchy (Hierarchy.pushChild node parent)).run added = .ok () attached
  addNode_insertBefore : ∀ sibling op, program.checkNode sibling = .ok () →
    program.hierarchy.parent? sibling ≠ none → ∃ node added attached,
    (addNode op).run program = .ok node added ∧
    (onHierarchy (Hierarchy.insertBefore node sibling)).run added = .ok () attached
  detach_insertBefore : ∀ node sibling parent, program.checkNode node = .ok () → program.checkNotRoot node = .ok () →
    program.hierarchy.parent? sibling = some parent →
    ¬ (node = sibling ∨ program.hierarchy.contains node parent = true) → ∃ former detached moved,
    (onHierarchy (Hierarchy.detach node)).run program = .ok former detached ∧
    (onHierarchy (Hierarchy.insertBefore node sibling)).run detached = .ok () moved
  forget_removeNode_entry : ∀ node, program.checkNode node = .ok () → program.checkNotRoot node = .ok () →
    program.hierarchy.hasChildren node = false → ∃ forgotten edges removed op,
    (onHierarchy (Hierarchy.forget node)).run program = .ok () forgotten ∧
    (onGraph (PortGraph.removeNode node)).run forgotten = .ok edges removed ∧
    { removed with metadata := removed.metadata.erase node }.entry node = .ok op
  /-- The nodes of a subtree are removed from the last one in pre-order to the first. -/
  removeNode_each : ∀ node, program.checkNode node = .ok () → program.checkNotRoot node = .ok () →
    ∀ before below after, (program.hierarchy.descendants node).reverse = before ++ below :: after →
    ∃ reached op removed,
    (before.forM fun below => do let _ ← removeNode below : Change Program Unit).run program = .ok () reached ∧
    (removeNode below).run reached = .ok op removed
  setPorts_setPorts_entry : ∀ node (op : Op), program.checkNode node = .ok () → ∃ first second old,
    (onGraph (PortGraph.setPorts node .incoming (PortGraph.resize (op.portCount .incoming)))).run program =
      .ok () first ∧
    (onGraph (PortGraph.setPorts node .outgoing (PortGraph.resize (op.portCount .outgoing)))).run first =
      .ok () second ∧
    second.entry node = .ok old
  connect_checked : ∀ (source : Node) sourceOffset (target : Node) targetOffset kind,
    program.checkConnection (source.outputPort sourceOffset) (target.inputPort targetOffset) = .ok kind →
    ∃ edge connected, (onGraph (PortGraph.connect (source.outputPort sourceOffset) (target.inputPort targetOffset)
      kind)).run program = .ok edge connected
  declare_each : ∀ found, program.inferred = .ok found → ∀ before node delta after,
    found.undeclared.entries = before ++ (node, delta) :: after → ∃ reached op declared,
    (before.forM fun (node, delta) => declare node delta).run program = .ok () reached ∧
    reached.entry node = .ok op ∧ op.declare delta = .ok declared

namespace AgreesOn

open Hierarchy

variable {program : Program} {kids : Node → List Node}

theorem failsUnchanged (agrees : program.AgreesOn kids) : program.FailsUnchanged where
  addChild parent op := (agrees.settles_addChild parent op).atomic
  addBefore sibling op := (agrees.settles_addBefore sibling op).atomic
  setParent node parent := (agrees.settles_setParent node parent).atomic
  moveBefore node sibling := (agrees.settles_moveBefore node sibling).atomic
  removeNode node := (agrees.settles_removeNode node).atomic
  removeSubtree node := (agrees.settles_removeSubtree node).atomic
  replaceOp node op := (agrees.settles_replaceOp node op).atomic
  connect source sourceOffset target targetOffset :=
    (agrees.settles_connect source sourceOffset target targetOffset).atomic
  addOrder source target := (agrees.settles_addOrder source target).atomic
  inferExtensions := agrees.settles_inferExtensions.atomic
  setNumPorts node inputs outputs := (agrees.graph.settles_setNumPorts node inputs outputs).atomic

theorem stepsSucceed (agrees : program.AgreesOn kids) : program.StepsSucceed where
  addNode_pushChild parent op checked := by
    have live := agrees.checkNode_eq_ok_iff.1 checked
    obtain ⟨hierarchy, run, -⟩ := (agrees.grown op).run_pushChild
      (agrees.attachable_of_not_contains agrees.graph.contains_nextNode live) (agrees.contains_grown_nextNode op)
      (agrees.contains_grown_of_contains op live) agrees.nextNode_ne_root
    exact ⟨_, _, _, run_addNode program op, run⟩
  addNode_insertBefore sibling op _ attached := by
    obtain ⟨parent, above⟩ := Option.ne_none_iff_exists'.1 attached
    have isChild := (agrees.stores.parent_iff sibling parent).1 above
    obtain ⟨before, after, split⟩ := List.append_of_mem isChild
    obtain ⟨hierarchy, run, -⟩ := (agrees.grown op).run_insertBefore split
      (agrees.attachable_of_not_contains agrees.graph.contains_nextNode (agrees.kids_live parent sibling isChild).2)
      (agrees.contains_grown_nextNode op) agrees.nextNode_ne_root
    exact ⟨_, _, _, run_addNode program op, run⟩
  detach_insertBefore node sibling parent checked notRoot above allowed := by
    obtain ⟨former, taken, moved, detached, run, -⟩ := agrees.run_detach_insertBefore
      (agrees.checkNode_eq_ok_iff.1 checked) (checkNotRoot_eq_ok_iff.1 notRoot) above allowed
    exact ⟨former, _, _, detached, run⟩
  forget_removeNode_entry node checked _ childless := by
    have live := agrees.checkNode_eq_ok_iff.1 checked
    obtain ⟨op, found⟩ := agrees.get?_of_contains live
    have none : kids node = [] := by
      rw [agrees.stores.hasChildren_eq] at childless
      simpa using childless
    obtain ⟨hierarchy, run, -⟩ := agrees.stores.exists_forget none
    exact ⟨_, _, _, op, run_onHierarchy_of_ok run,
      @run_onGraph_of_ok { program with hierarchy := hierarchy } _ _ _ _
        (PortGraph.run_removeNode agrees.graph live), entry_eq_ok_iff.2 found⟩
  removeNode_each node checked notRoot before below after split := by
    obtain ⟨new, run, -⟩ := agrees.run_removeSubtree (agrees.checkNode_eq_ok_iff.1 checked)
      (checkNotRoot_eq_ok_iff.1 notRoot)
    simp only [removeSubtree, Change.run_ask_bind, checked, notRoot, Change.run_get_bind, split] at run
    obtain ⟨reached, next, earlier, here⟩ := Change.exists_of_run_forM run
    obtain ⟨op, last, removed, -⟩ := Change.run_bind_eq_ok_iff.1 here
    exact ⟨reached, op, last, earlier, removed⟩
  setPorts_setPorts_entry node op checked := by
    obtain ⟨old, found⟩ := agrees.get?_of_contains (agrees.checkNode_eq_ok_iff.1 checked)
    exact ⟨_, _, old, run_onGraph_of_ok (PortGraph.run_setPorts ..), run_onGraph_of_ok (PortGraph.run_setPorts ..),
      entry_eq_ok_iff.2 found⟩
  connect_checked source sourceOffset target targetOffset kind checked := by
    obtain ⟨origin, goal, atSource, atTarget, -⟩ := checkConnection_spec checked
    exact ⟨_, _, run_onGraph_of_ok (PortGraph.run_connect kind rfl rfl (agrees.hasPort_of_kindAt? atSource)
      (agrees.hasPort_of_kindAt? atTarget))⟩
  declare_each found inferred before node delta after split := by
    obtain ⟨new, run, -⟩ := agrees.run_declareAll (inferred_annotatable inferred)
    rw [split] at run
    obtain ⟨reached, next, earlier, here⟩ := Change.exists_of_run_forM run
    obtain ⟨op, held, here⟩ := Change.run_ask_bind_eq_ok_iff.1 here
    obtain ⟨declared, isDeclared, -⟩ := Change.run_ask_bind_eq_ok_iff.1 here
    exact ⟨reached, op, declared, earlier, held, isDeclared⟩

end AgreesOn

/-- Whatever is done to a program that was built and edited in any way, is done as a whole or not at all. -/
theorem changes_are_atomic {program : Program} (reachable : Reachable program) :
    program.FailsUnchanged ∧ program.StepsSucceed :=
  have agrees : program.AgreesOn program.hierarchy.children := reachable.consistent
  ⟨agrees.failsUnchanged, agrees.stepsSucceed⟩

/-- A module with a region and a constant in the region, after the region was to be moved before the constant, which
fails. -/
theorem changes_are_atomic_module :
    let program := (Edit.moveBefore ⟨1, 0⟩ ⟨2, 0⟩).apply ((Edit.addChild ⟨1, 0⟩ (.const (.tuple []) (.tuple []))).apply
      ((Edit.addChild ⟨0, 0⟩ (.dfg [] [] none)).apply (ofRoot .moduleRoot)))
    program.FailsUnchanged ∧ program.StepsSucceed :=
  changes_are_atomic (.edited (.edited (.edited (.ofRoot .moduleRoot) _) _) _)

end Program

end NestedFlow
