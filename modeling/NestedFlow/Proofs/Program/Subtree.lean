import NestedFlow.Proofs.Program.Questions
import NestedFlow.Proofs.Program.Reachable

/-! What is left when a subtree is removed.

The nodes of the subtree are removed one by one, each with the edges that are still at it. In the end exactly the edges
with an end in the subtree are gone, wherever the other end was, and the other nodes are as they were.
-/

set_option autoImplicit false

namespace NestedFlow

open Hierarchy

/-- Whether neither end of an edge is at one of some nodes. -/
def Edge.avoids (edge : Edge) (nodes : List Node) : Bool :=
  decide (edge.source.node ∉ nodes ∧ edge.target.node ∉ nodes)

theorem Edge.avoids_nil (edge : Edge) : edge.avoids [] = true := by
  simp [avoids]

theorem Edge.avoids_cons (edge : Edge) (node : Node) (rest : List Node) :
    edge.avoids (node :: rest) = (edge.avoids [node] && edge.avoids rest) := by
  simp only [avoids, List.mem_cons, List.not_mem_nil, or_false, not_or, ← Bool.decide_and]
  congr 1
  rw [eq_iff_iff]
  tauto

namespace PortGraph

/-- The second graph is the first one without some nodes, and without the edges at them. -/
structure Spares (graph : PortGraph) (gone : List Node) (new : PortGraph) : Prop where
  contains : ∀ node, new.contains node = (graph.contains node && decide (node ∉ gone))
  portCount : ∀ node, node ∉ gone → ∀ direction,
    (new.portsOf node direction).length = (graph.portsOf node direction).length
  allEdges : new.allEdges = graph.allEdges.filter fun edge => edge.avoids gone
  edgesAt : ∀ port, new.edgesAt port = (graph.edgesAt port).filter fun edge => edge.avoids gone

theorem spares_nil (graph : PortGraph) : graph.Spares [] graph where
  contains node := by simp
  portCount _ _ _ := rfl
  allEdges := by simp [Edge.avoids_nil]
  edgesAt port := by simp [Edge.avoids_nil]

theorem Spares.cons {graph between new : PortGraph} {node : Node} {rest : List Node}
    (first : graph.Spares [node] between) (further : between.Spares rest new) : graph.Spares (node :: rest) new where
  contains other := by
    rw [further.contains, first.contains, Bool.and_assoc]
    simp
  portCount other apart direction := by
    rw [List.mem_cons, not_or] at apart
    rw [further.portCount other apart.2, first.portCount other fun mem => apart.1 (List.mem_singleton.1 mem)]
  allEdges := by
    rw [further.allEdges, first.allEdges, List.filter_filter]
    congr 1
    funext edge
    rw [edge.avoids_cons node rest, Bool.and_comm]
  edgesAt port := by
    rw [further.edgesAt, first.edgesAt, List.filter_filter]
    congr 1
    funext edge
    rw [edge.avoids_cons node rest, Bool.and_comm]

variable {graph : PortGraph}

/-- An edge at a node is one that does not avoid it. -/
theorem Consistent.not_mem_incident_iff (consistent : graph.Consistent) {node : Node} {id : Nat} {link : Link}
    (found : graph.links.get? id = some link) : id ∉ graph.incident node ↔ (link.edge id).avoids [node] = true := by
  rw [consistent.mem_incident_iff, Edge.avoids, decide_eq_true_iff, List.mem_singleton, List.mem_singleton]
  constructor
  · intro apart
    exact ⟨fun same => apart ⟨link, .outgoing, found, same⟩, fun same => apart ⟨link, .incoming, found, same⟩⟩
  · rintro ⟨source, target⟩ ⟨other, direction, recorded, same⟩
    rw [found, Option.some.injEq] at recorded
    subst recorded
    cases direction with
    | incoming => exact target same
    | outgoing => exact source same

theorem Consistent.spares_withoutNode (consistent : graph.Consistent) {node : Node}
    (live : graph.contains node = true) : graph.Spares [node] (graph.withoutNode node) where
  contains other := by simp [contains_withoutNode live]
  portCount other apart direction := by
    rw [portsOf_withoutNode live, if_neg (fun same => apart (List.mem_singleton.2 same)), List.length_map]
  allEdges := by
    change (graph.links.entries.filter fun entry => decide (entry.1 ∉ graph.incident node)).map _ = _
    rw [allEdges, List.filter_map]
    congr 1
    apply List.filter_congr
    intro entry mem
    have found := (graph.links.get?_eq_some_iff entry.1 entry.2).2 mem
    rw [Function.comp_apply, Bool.eq_iff_iff, decide_eq_true_iff, consistent.not_mem_incident_iff found]
  edgesAt port := by
    have record : ∀ id, (graph.withoutNode node).edge? id =
        if id ∈ graph.incident node then none else graph.edge? id := by
      intro id
      change ((graph.links.eraseAll (graph.incident node)).get? id).map _ = _
      rw [Table.get?_eraseAll]
      split <;> rfl
    rw [edgesAt, consistent.idsAt_withoutNode live, idsAt_withoutEdges, excluding, List.filterMap_filter, edgesAt,
      List.filter_filterMap]
    -- what is listed is recorded, so whether it is dropped is seen from its ends
    apply List.filterMap_congr
    intro id listed
    obtain ⟨link, found⟩ := consistent.recorded_of_mem_idsAt listed
    have isEdge : graph.edge? id = some (link.edge id) := by rw [edge?, found, Option.map_some]
    have decides : id ∉ graph.incident node ↔ (link.edge id).avoids [node] = true :=
      consistent.not_mem_incident_iff found
    by_cases among : id ∈ graph.incident node
    · have met : (link.edge id).avoids [node] = false := Bool.eq_false_iff.2 fun avoided => decides.2 avoided among
      simp [among, isEdge, Option.filter_some, met]
    · simp [among, record, isEdge, Option.filter_some, decides.1 among]

/-- Nodes that are taken away one after another take the edges at any of them along. -/
theorem Consistent.spares_foldl_withoutNode (consistent : graph.Consistent) {nodes : List Node}
    (live : ∀ node ∈ nodes, graph.contains node = true) (distinct : nodes.Nodup) :
    graph.Spares nodes (nodes.foldl PortGraph.withoutNode graph) := by
  induction nodes generalizing graph with
  | nil => exact graph.spares_nil
  | cons node rest ih =>
    rw [List.nodup_cons] at distinct
    have liveNode := live node List.mem_cons_self
    refine (consistent.spares_withoutNode liveNode).cons (ih (consistent.withoutNode liveNode) ?_ distinct.2)
    -- a later node is another one, so it is live still
    intro other mem
    have apart : other ≠ node := fun same => distinct.1 (same ▸ mem)
    rw [contains_withoutNode liveNode, live other (List.mem_cons_of_mem _ mem), Bool.true_and, decide_eq_true_iff]
    exact apart

theorem Spares.contains_eq {gone : List Node} {new : PortGraph} (spares : graph.Spares gone new) {node : Node}
    (apart : node ∉ gone) : new.contains node = graph.contains node := by
  rw [spares.contains, decide_eq_true apart, Bool.and_true]

theorem Spares.numPorts_eq {gone : List Node} {new : PortGraph} (spares : graph.Spares gone new) {node : Node}
    (apart : node ∉ gone) (direction : Direction) : new.numPorts node direction = graph.numPorts node direction := by
  have same := spares.contains_eq apart
  cases live : graph.contains node with
  | true =>
    rw [numPorts_of_contains live, numPorts_of_contains (same.trans live), spares.portCount node apart]
  | false =>
    have absent := contains_eq_false_iff.1 live
    have stillAbsent := contains_eq_false_iff.1 (same.trans live)
    rw [numPorts, numPorts, PortGraph.slot, PortGraph.slot, absent, stillAbsent]

end PortGraph

/-! ### Children -/

namespace Hierarchy

variable {kids : Node → List Node}

theorem foldl_withoutChild (distinct : ∀ parent, (kids parent).Nodup) (nodes : List Node) (parent : Node) :
    nodes.foldl withoutChild kids parent = (kids parent).filter fun child => decide (child ∉ nodes) := by
  induction nodes generalizing kids with
  | nil => simp
  | cons node rest ih =>
    have fewer : ∀ above, (withoutChild kids node above).Nodup := fun above => (distinct above).erase node
    rw [List.foldl_cons, ih fewer, withoutChild, (distinct parent).erase_eq_filter, List.filter_filter]
    congr 1
    funext child
    by_cases same : child = node <;> simp [same]

/-- Of the children of a node outside of a tree only the top of the tree can be in it. -/
theorem Stores.filter_kids {hierarchy : Hierarchy} (stores : hierarchy.Stores kids) {top parent : Node}
    (outside : parent ∉ hierarchy.descendants top) :
    ((kids parent).filter fun child => decide (child ∉ hierarchy.descendants top)) = (kids parent).erase top := by
  rw [(stores.distinct parent).erase_eq_filter]
  apply List.filter_congr
  intro child isChild
  rw [stores.mem_descendants] at outside
  have inside : child ∈ hierarchy.descendants top ↔ child = top := by
    rw [stores.mem_descendants, stores.above_iff isChild]
    constructor
    · -- a child below the top would have its parent in the tree
      rintro (same | above)
      · exact same
      · exact absurd (above.imp_left Eq.symm) outside
    · exact Or.inl
  simp only [inside]
  by_cases same : child = top <;> simp [same]

end Hierarchy

namespace Program

/-- The second program is the first one without some nodes and the edges at them, whatever its containment tree is. -/
structure Spares (program : Program) (gone : List Node) (new : Program) : Prop where
  graph : program.graph.Spares gone new.graph
  ops : ∀ node, node ∉ gone → new.ops.get? node = program.ops.get? node
  metadata : ∀ node, node ∉ gone → new.metadata.get? node = program.metadata.get? node
  root : new.root = program.root

/-- The second program is the first one without some nodes and the edges at them, and one of these nodes is gone from
the children of its parent. -/
structure Prunes (program : Program) (top : Node) (gone : List Node) (new : Program) : Prop where
  contains : ∀ node, new.contains node = (program.contains node && decide (node ∉ gone))
  allEdges : new.graph.allEdges = program.graph.allEdges.filter fun edge => edge.avoids gone
  portEdges : ∀ port, port.node ∉ gone →
    new.portEdges port = (program.portEdges port).map fun edges => edges.filter fun edge => edge.avoids gone
  numPorts : ∀ node, node ∉ gone → ∀ direction,
    new.graph.numPorts node direction = program.graph.numPorts node direction
  op : ∀ node, node ∉ gone → new.op node = program.op node
  metadataOf : ∀ node, node ∉ gone → new.metadataOf node = program.metadataOf node
  parent? : ∀ node, node ∉ gone → new.parent? node = program.parent? node
  children : ∀ node, node ∉ gone → new.children node = (program.children node).map fun kids => kids.erase top
  root : new.root = program.root

namespace AgreesOn

variable {program : Program} {kids : Node → List Node}

theorem spares_withoutAll (agrees : program.AgreesOn kids) {nodes : List Node}
    (live : ∀ node ∈ nodes, program.graph.contains node = true) (distinct : nodes.Nodup) (hierarchy : Hierarchy) :
    program.Spares nodes (program.withoutAll nodes hierarchy) where
  graph := agrees.graph.spares_foldl_withoutNode live distinct
  ops node apart := by rw [withoutAll, Table.get?_eraseAll, if_neg apart]
  metadata node apart := by rw [withoutAll, Table.get?_eraseAll, if_neg apart]
  root := rfl

section

variable {gone : List Node} {new : Program} {others : Node → List Node} (agrees : program.AgreesOn kids)
  (result : new.AgreesOn others) (spares : program.Spares gone new)

include agrees result spares

theorem checkNode_of_spares {node : Node} (apart : node ∉ gone) : new.checkNode node = program.checkNode node := by
  rw [checkNode, checkNode, result.contains_eq, agrees.contains_eq, spares.graph.contains_eq apart]

/-- The edges of a port that stays are those that stay, in their order; what is no port is none afterwards. -/
theorem portEdges_of_spares {port : Port} (apart : port.node ∉ gone) :
    new.portEdges port = (program.portEdges port).map fun edges => edges.filter fun edge => edge.avoids gone := by
  have checkPort : new.graph.checkPort port = program.graph.checkPort port := by
    rw [PortGraph.checkPort, PortGraph.checkPort, spares.graph.numPorts_eq apart]
  cases checked : program.graph.checkPort port with
  | error error =>
    rw [Program.portEdges, Program.portEdges, agrees.checkNode_of_spares result spares apart, PortGraph.portEdges,
      PortGraph.portEdges, checkPort, checked]
    cases program.checkNode port.node <;> rfl
  | ok _ =>
    rw [agrees.portEdges_eq (PortGraph.checkPort_eq_ok_iff.1 checked),
      result.portEdges_eq (PortGraph.checkPort_eq_ok_iff.1 (checkPort.trans checked)), spares.graph.edgesAt]
    rfl

variable (remain : ∀ parent, others parent = (kids parent).filter fun child => decide (child ∉ gone))

include remain

theorem parent?_of_spares {node : Node} (apart : node ∉ gone) : new.parent? node = program.parent? node := by
  have above : new.hierarchy.parent? node = program.hierarchy.parent? node := by
    apply Option.ext
    intro parent
    rw [Hierarchy.parent?, Hierarchy.parent?, result.stores.parent_iff, agrees.stores.parent_iff, remain,
      List.mem_filter, decide_eq_true_iff, and_iff_left apart]
  rw [Program.parent?, Program.parent?, agrees.checkNode_of_spares result spares apart, above]

/-- If the nodes of a tree are gone, from the program and from the lists of children, then nothing else is. -/
theorem prunes {top : Node} (isTree : ∀ node, node ∈ gone ↔ node ∈ program.hierarchy.descendants top) :
    program.Prunes top (program.hierarchy.descendants top) new := by
  have avoids : ∀ edge : Edge, edge.avoids (program.hierarchy.descendants top) = edge.avoids gone := by
    intro edge
    simp only [Edge.avoids, isTree]
  constructor
  case root => exact spares.root
  -- only the members of the tree matter, not their order
  all_goals simp only [avoids, ← isTree]
  case contains =>
    intro node
    rw [result.contains_eq, agrees.contains_eq, spares.graph.contains]
  case allEdges => exact spares.graph.allEdges
  case portEdges => exact fun port apart => agrees.portEdges_of_spares result spares apart
  case numPorts => exact fun node apart => spares.graph.numPorts_eq apart
  case op =>
    intro node apart
    rw [Program.op, Program.op, agrees.checkNode_of_spares result spares apart, entry, entry, spares.ops node apart]
  case metadataOf =>
    intro node apart
    rw [metadataOf, metadataOf, agrees.checkNode_of_spares result spares apart, Table.getD_eq, Table.getD_eq,
      spares.metadata node apart]
  case parent? => exact fun node apart => agrees.parent?_of_spares result spares remain apart
  case children =>
    intro node apart
    have fewer : others node = (kids node).erase top := by
      rw [isTree] at apart
      rw [remain, ← agrees.stores.filter_kids apart]
      simp only [isTree]
    rw [Program.children, Program.children, agrees.checkNode_of_spares result spares apart,
      result.stores.children_eq, agrees.stores.children_eq, fewer]
    cases program.checkNode node <;> rfl

end

end AgreesOn

/-- In whatever way a program was built and edited, the removal of a subtree takes away exactly its nodes and the edges
at them. -/
theorem removes_subtree {program : Program} {node : Node} (reachable : Reachable program)
    (live : program.contains node = true) (notRoot : node ≠ program.root) :
    ∃ below new, program.descendants node = .ok below ∧ (removeSubtree node).run program = .ok () new ∧
      program.Prunes node below new := by
  have agrees : program.AgreesOn program.hierarchy.children := reachable.consistent
  rw [agrees.contains_eq] at live
  obtain ⟨hierarchy, run, result, -⟩ := agrees.run_removeSubtree live notRoot
  refine ⟨_, _, agrees.descendants_eq live, run, ?_⟩
  have liveBelow : ∀ other ∈ (program.hierarchy.descendants node).reverse, program.graph.contains other = true :=
    fun other mem => agrees.contains_of_below live (agrees.stores.mem_descendants.1 (List.mem_reverse.1 mem))
  have distinct := List.nodup_reverse.2 (agrees.stores.nodup_descendants node)
  exact agrees.prunes result (agrees.spares_withoutAll liveBelow distinct hierarchy)
    (foldl_withoutChild agrees.stores.distinct _) fun _ => List.mem_reverse

/-- A constant that two functions load. The first of them loads it in a nested region, which is ordered after its own
content and after itself. -/
def shared : Program := (ofRoot .moduleRoot).edited [
  .addChild ⟨0, 0⟩ (.const (.tuple []) (.tuple [])),
  .addChild ⟨0, 0⟩ (.funcDefn "first" (.mono (.endo [] ∅))),
  .addChild ⟨0, 0⟩ (.funcDefn "second" (.mono (.endo [] ∅))),
  .addChild ⟨2, 0⟩ (.dfg [] [] none),
  .addChild ⟨4, 0⟩ (.loadConstant (.tuple [])),
  .addChild ⟨3, 0⟩ (.loadConstant (.tuple [])),
  .connect ⟨1, 0⟩ 0 ⟨5, 0⟩ 0,
  .connect ⟨1, 0⟩ 0 ⟨6, 0⟩ 0,
  .addOrder ⟨4, 0⟩ ⟨4, 0⟩,
  .addOrder ⟨5, 0⟩ ⟨4, 0⟩]

theorem removes_subtree_shared :
    ∃ new, (removeSubtree ⟨2, 0⟩).run shared = .ok () new ∧ shared.Prunes ⟨2, 0⟩ [⟨2, 0⟩, ⟨4, 0⟩, ⟨5, 0⟩] new ∧
      new.graph.allEdges = [⟨1, ⟨⟨1, 0⟩, .outgoing, 0⟩, ⟨⟨6, 0⟩, .incoming, 0⟩, .static⟩] := by
  have reachable : Reachable shared := (Reachable.ofRoot .moduleRoot).edits _
  have live : shared.contains ⟨2, 0⟩ = true := by decide +kernel
  have apart : ⟨2, 0⟩ ≠ shared.root := by decide +kernel
  have tree : shared.descendants ⟨2, 0⟩ = .ok [⟨2, 0⟩, ⟨4, 0⟩, ⟨5, 0⟩] := by with_unfolding_all rfl
  have edges : (shared.graph.allEdges.filter fun edge => edge.avoids [⟨2, 0⟩, ⟨4, 0⟩, ⟨5, 0⟩]) =
      [⟨1, ⟨⟨1, 0⟩, .outgoing, 0⟩, ⟨⟨6, 0⟩, .incoming, 0⟩, .static⟩] := by decide +kernel
  obtain ⟨below, new, listed, run, prunes⟩ := removes_subtree reachable live apart
  rw [tree, Except.ok.injEq] at listed
  subst listed
  exact ⟨new, run, prunes, prunes.allEdges.trans edges⟩

end Program

end NestedFlow
