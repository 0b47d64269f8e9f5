import NestedFlow.Program.Requirements
import NestedFlow.Proofs.Hierarchy.Descendants
import NestedFlow.Proofs.Hierarchy.Steps
import NestedFlow.Proofs.Op
import NestedFlow.Proofs.PortGraph.Growth
import NestedFlow.Proofs.PortGraph.Removal

/-! Programs whose port graph, containment tree, operations and metadata agree. -/

set_option autoImplicit false

namespace NestedFlow.Program

open Hierarchy

/-- The structures of a program agree, with the given children of every node. -/
structure AgreesOn (program : Program) (kids : Node → List Node) : Prop where
  graph : program.graph.Consistent
  stores : program.hierarchy.Stores kids
  ops_iff : ∀ node, node ∈ program.ops.keys ↔ program.graph.contains node = true
  metadata_live : ∀ node ∈ program.metadata.keys, program.graph.contains node = true
  kids_live : ∀ parent, ∀ node ∈ kids parent,
    program.graph.contains node = true ∧ program.graph.contains parent = true
  root_live : program.graph.contains program.root = true
  root_top : ∀ parent, program.root ∉ kids parent
  portTotals : ∀ node op, program.ops.get? node = some op →
    ∀ direction, (program.graph.portsOf node direction).length = op.portCount direction

def Consistent (program : Program) : Prop := program.AgreesOn program.hierarchy.children

theorem AgreesOn.consistent {program : Program} {kids : Node → List Node} (agrees : program.AgreesOn kids) :
    program.Consistent := by
  have same : program.hierarchy.children = kids := funext agrees.stores.children_eq
  rwa [Consistent, same]

namespace AgreesOn

variable {program : Program} {kids : Node → List Node}

theorem get?_of_contains (agrees : program.AgreesOn kids) {node : Node} (live : program.graph.contains node = true) :
    ∃ op, program.ops.get? node = some op :=
  (program.ops.mem_keys_iff_get? node).1 ((agrees.ops_iff node).2 live)

theorem contains_of_get? (agrees : program.AgreesOn kids) {node : Node} {op : Op}
    (found : program.ops.get? node = some op) : program.graph.contains node = true :=
  (agrees.ops_iff node).1 (Table.mem_keys_of_get? found)

theorem contains_eq (agrees : program.AgreesOn kids) (node : Node) :
    program.contains node = program.graph.contains node := by
  rw [contains]
  cases live : program.graph.contains node with
  | false => exact Bool.and_false _
  | true =>
    rw [Bool.and_true, Table.contains_iff]
    exact agrees.get?_of_contains live

theorem checkNode_eq_ok_iff (agrees : program.AgreesOn kids) {node : Node} :
    program.checkNode node = .ok () ↔ program.graph.contains node = true := by
  rw [checkNode, agrees.contains_eq]
  cases program.graph.contains node <;> simp [failAt]

theorem not_mem_kids_of_not_contains (agrees : program.AgreesOn kids) {node : Node}
    (dead : program.graph.contains node = false) (parent : Node) : node ∉ kids parent := by
  intro mem
  rw [(agrees.kids_live parent node mem).1] at dead
  cases dead

theorem kids_of_not_contains (agrees : program.AgreesOn kids) {node : Node}
    (dead : program.graph.contains node = false) : kids node = [] := by
  apply List.eq_nil_iff_forall_not_mem.2
  intro child mem
  rw [(agrees.kids_live node child mem).2] at dead
  cases dead

theorem contains_of_below (agrees : program.AgreesOn kids) {above node : Node}
    (live : program.graph.contains above = true) (below : node = above ∨ Above kids above node) :
    program.graph.contains node = true := by
  rcases below with same | path
  · rwa [same]
  · obtain ⟨parent, -, holds⟩ := Relation.TransGen.tail'_iff.1 path
    exact (agrees.kids_live parent node holds).1

theorem contains_of_above (agrees : program.AgreesOn kids) {above node : Node}
    (live : program.graph.contains node = true) (below : node = above ∨ Above kids above node) :
    program.graph.contains above = true := by
  rcases below with same | path
  · rwa [← same]
  · obtain ⟨child, holds, -⟩ := Relation.TransGen.head'_iff.1 path
    exact (agrees.kids_live above child holds).2

/-- A node has the ports that its operation counts. -/
theorem hasPort_of_lt (agrees : program.AgreesOn kids) {node : Node} {op : Op} (found : program.ops.get? node = some op)
    {direction : Direction} {offset : Nat} (inside : offset < op.portCount direction) :
    program.graph.HasPort ⟨node, direction, offset⟩ := by
  refine ⟨Int.natCast_nonneg offset, ?_⟩
  rw [← agrees.portTotals node op found] at inside
  exact Int.ofNat_lt.2 inside

/-- A node with a port of some kind has that port. -/
theorem hasPort_of_portKind? (agrees : program.AgreesOn kids) {port : Port} {op : Op} {kind : PortKind}
    (found : program.ops.get? port.node = some op) (known : op.portKind? port.direction port.offset = some kind) :
    program.graph.HasPort port := by
  obtain ⟨lower, upper⟩ := Op.portKind?_inside known
  refine ⟨lower, ?_⟩
  rwa [agrees.portTotals port.node op found]

/-! ### Changes of single parts -/

/-- Another graph with the same nodes and numbers of ports. -/
theorem withGraph (agrees : program.AgreesOn kids) {graph : PortGraph} (consistent : graph.Consistent)
    (live : ∀ node, graph.contains node = program.graph.contains node)
    (totals : ∀ node direction,
      (graph.portsOf node direction).length = (program.graph.portsOf node direction).length) :
    { program with graph := graph }.AgreesOn kids where
  graph := consistent
  stores := agrees.stores
  ops_iff node := (agrees.ops_iff node).trans (by rw [live])
  metadata_live node mem := (live node).trans (agrees.metadata_live node mem)
  kids_live parent node mem :=
    ⟨(live node).trans (agrees.kids_live parent node mem).1, (live parent).trans (agrees.kids_live parent node mem).2⟩
  root_live := (live program.root).trans agrees.root_live
  root_top := agrees.root_top
  portTotals node op found direction := (totals node direction).trans (agrees.portTotals node op found direction)

/-- Another forest over the live nodes, with the root on top. -/
theorem withHierarchy (agrees : program.AgreesOn kids) {hierarchy : Hierarchy} {others : Node → List Node}
    (stores : hierarchy.Stores others)
    (live : ∀ parent, ∀ node ∈ others parent,
      program.graph.contains node = true ∧ program.graph.contains parent = true)
    (top : ∀ parent, program.root ∉ others parent) :
    { program with hierarchy := hierarchy }.AgreesOn others where
  graph := agrees.graph
  stores := stores
  ops_iff := agrees.ops_iff
  metadata_live := agrees.metadata_live
  kids_live := live
  root_live := agrees.root_live
  root_top := top
  portTotals := agrees.portTotals

/-- A live node gets an operation for the ports that it has. -/
theorem withOp (agrees : program.AgreesOn kids) {node : Node} {op : Op} (live : program.graph.contains node = true)
    (totals : ∀ direction, (program.graph.portsOf node direction).length = op.portCount direction) :
    { program with ops := program.ops.insert node op }.AgreesOn kids where
  graph := agrees.graph
  stores := agrees.stores
  ops_iff other := by
    rw [← agrees.ops_iff, Table.keys_insert, if_pos ((agrees.ops_iff node).2 live)]
  metadata_live := agrees.metadata_live
  kids_live := agrees.kids_live
  root_live := agrees.root_live
  root_top := agrees.root_top
  portTotals other found get direction := by
    rw [Table.get?_insert_eq] at get
    split at get
    · rename_i same
      rw [Option.some.injEq] at get
      rw [same, ← get]
      exact totals direction
    · exact agrees.portTotals other found get direction

theorem withMetadata (agrees : program.AgreesOn kids) {metadata : Table Node (Table String Json)}
    (live : ∀ node ∈ metadata.keys, program.graph.contains node = true) :
    { program with metadata := metadata }.AgreesOn kids :=
  ⟨agrees.graph, agrees.stores, agrees.ops_iff, live, agrees.kids_live, agrees.root_live, agrees.root_top,
    agrees.portTotals⟩

end AgreesOn

/-- The program of a single node has a graph that grew by one node. -/
theorem ofRoot_graph (op : Op) : (ofRoot op).graph = PortGraph.empty.grown op.portCount := rfl

theorem ofRoot_agrees (op : Op) : (ofRoot op).AgreesOn fun _ => [] where
  graph := PortGraph.consistent_empty.grown op.portCount
  stores := stores_empty
  ops_iff node := by
    rw [ofRoot_graph, PortGraph.consistent_empty.contains_grown, PortGraph.contains_empty, Bool.or_false,
      decide_eq_true_iff, Table.mem_keys_iff_get?]
    change (∃ found, ((∅ : Table Node Op).insert ⟨0, 0⟩ op).get? node = some found) ↔ node = ⟨0, 0⟩
    simp [eq_comm]
  metadata_live node mem := by cases mem
  kids_live parent node mem := by cases mem
  root_live := rfl
  root_top parent := List.not_mem_nil
  portTotals node found get direction := by
    change ((∅ : Table Node Op).insert ⟨0, 0⟩ op).get? node = some found at get
    rw [Table.get?_insert_eq] at get
    split at get
    · rename_i same
      rw [Option.some.injEq] at get
      have isNext : node = PortGraph.empty.nextNode := same
      rw [ofRoot_graph, PortGraph.consistent_empty.portsOf_grown, if_pos isNext, List.length_replicate, get]
    · cases get

end NestedFlow.Program
