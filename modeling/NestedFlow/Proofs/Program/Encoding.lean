import Mathlib.Data.List.Nodup
import NestedFlow.Program.Codec
import NestedFlow.Proofs.Hierarchy.Forest
import NestedFlow.Proofs.Program.Questions

/-! The document of a program whose structures agree: all nodes in the order of the forest, and all edges in the order
of the nodes and ports that they leave.
-/

set_option autoImplicit false

namespace NestedFlow.Program

open Hierarchy

/-! ### The order of the nodes -/

/-- The root, and the other nodes without a parent. -/
def tops (program : Program) : List Node :=
  program.root :: program.graph.nodes.filter fun node =>
    node ≠ program.root ∧ program.hierarchy.parent? node = none

/-- All nodes, tree by tree. -/
def order (program : Program) : List Node := program.tops.flatMap program.hierarchy.descendants

namespace AgreesOn

variable {program : Program} {kids : Node → List Node}

theorem mem_tops (agrees : program.AgreesOn kids) {node : Node} :
    node ∈ program.tops ↔ program.graph.contains node = true ∧ ∀ parent, node ∉ kids parent := by
  rw [tops, List.mem_cons, List.mem_filter, PortGraph.mem_nodes, decide_eq_true_eq, agrees.stores.parent?_eq_none_iff]
  constructor
  · rintro (same | ⟨live, -, top⟩)
    · rw [same]
      exact ⟨agrees.root_live, agrees.root_top⟩
    · exact ⟨live, top⟩
  · rintro ⟨live, top⟩
    by_cases isRoot : node = program.root
    · exact .inl isRoot
    · exact .inr ⟨live, isRoot, top⟩

theorem nodup_tops (program : Program) : program.tops.Nodup := by
  rw [tops, List.nodup_cons]
  exact ⟨by simp, program.graph.nodup_nodes.filter _⟩

theorem nodup_order (agrees : program.AgreesOn kids) : program.order.Nodup :=
  agrees.stores.nodup_flatMap_descendants (nodup_tops program) fun _ isTop => (agrees.mem_tops.1 isTop).2

/-- The order has every live node. -/
theorem mem_order (agrees : program.AgreesOn kids) {node : Node} :
    node ∈ program.order ↔ program.graph.contains node = true := by
  rw [order, List.mem_flatMap]
  constructor
  · rintro ⟨top, isTop, below⟩
    exact agrees.contains_of_below (agrees.mem_tops.1 isTop).1 (agrees.stores.mem_descendants.1 below)
  · intro live
    obtain ⟨top, isTop, below⟩ := agrees.stores.exists_top node
    exact ⟨top, agrees.mem_tops.2 ⟨agrees.contains_of_above live below, isTop⟩, agrees.stores.mem_descendants.2 below⟩

/-- Every node stands before its children, and these stand in their order. -/
theorem children_sublist_order (agrees : program.AgreesOn kids) {node : Node}
    (live : program.graph.contains node = true) : (node :: kids node).Sublist program.order := by
  obtain ⟨top, isTop, below⟩ := agrees.stores.exists_top node
  have part := (List.singleton_sublist.2 (agrees.mem_tops.2 ⟨agrees.contains_of_above live below, isTop⟩)).flatMap
    program.hierarchy.descendants
  rw [List.flatMap_singleton] at part
  exact ((agrees.stores.children_sublist_descendants node).trans (agrees.stores.descendants_sublist below)).trans part

theorem head_order (agrees : program.AgreesOn kids) : ∃ rest, program.order = program.root :: rest := by
  rw [order, tops, List.flatMap_cons, agrees.stores.descendants_eq, List.cons_append]
  exact ⟨_, rfl⟩

theorem flatMap_filter {α β : Type} (items : List α) (keep : α → Bool) (parts : α → List β) :
    (items.filter keep).flatMap parts = (items.map fun item => if keep item then parts item else []).flatten := by
  induction items with
  | nil => rfl
  | cons item rest ih =>
    rw [List.filter_cons, List.map_cons, List.flatten_cons, ← ih]
    cases keep item <;> simp

theorem encodingOrder_eq (agrees : program.AgreesOn kids) : program.encodingOrder = .ok program.order := by
  rw [encodingOrder, agrees.descendants_eq agrees.root_live, Outcome.ok_bind]
  refine Outcome.bind_eq_ok_iff.2 ⟨program.graph.nodes.map fun node =>
    if node ≠ program.root ∧ program.hierarchy.parent? node = none then program.hierarchy.descendants node else [],
    Outcome.mapM_of_forall fun node mem => ?_, ?_⟩
  · have live := PortGraph.mem_nodes.1 mem
    by_cases isRoot : node = program.root
    · simp [isRoot]
    · rw [if_neg isRoot, agrees.parent?_eq live, Outcome.ok_bind]
      cases program.hierarchy.parent? node with
      | none => simp [isRoot, agrees.descendants_eq live]
      | some parent => simp
  · rw [order, tops, List.flatMap_cons, flatMap_filter]
    simp

end AgreesOn

/-! ### The document -/

/-- The position of a node in the order. -/
def position (program : Program) (node : Node) : Nat := program.order.idxOf node

/-- The part of the document for a node with a given operation. -/
def nodeDoc (program : Program) (ops : Node → OpDoc) (node : Node) : NodeDoc where
  parent := (program.hierarchy.parent? node).map fun parent => (program.position parent : Int)
  op := ops node
  metadata :=
    if (program.metadata.getD node ∅).isEmpty then none else some (program.metadata.getD node ∅).entries

def edgeDoc (program : Program) (edge : Edge) : EdgeDoc where
  source := (program.position edge.source.node, edge.source.offset)
  target := (program.position edge.target.node, edge.target.offset)
  kind := edge.kind

/-- All edges, in the order of the nodes and ports that they leave. -/
def allEdges (program : Program) : List Edge :=
  program.order.flatMap fun node => program.graph.edgesOf node .outgoing

namespace AgreesOn

variable {program : Program} {kids : Node → List Node}

theorem getElem?_position (agrees : program.AgreesOn kids) {node : Node}
    (live : program.graph.contains node = true) : program.order[program.position node]? = some node := by
  have inside := List.idxOf_lt_length_of_mem (agrees.mem_order.2 live)
  rw [position, List.getElem?_eq_getElem inside, List.getElem_idxOf inside]

theorem position_eq_iff (agrees : program.AgreesOn kids) {node : Node} {index : Nat}
    (live : program.graph.contains node = true) :
    program.position node = index ↔ program.order[index]? = some node := by
  constructor
  · rintro rfl
    exact agrees.getElem?_position live
  · intro get
    obtain ⟨inside, same⟩ := List.getElem?_eq_some_iff.1 get
    rw [position, ← same, agrees.nodup_order.idxOf_getElem]

theorem positionOf_eq (agrees : program.AgreesOn kids) {node : Node} (live : program.graph.contains node = true) :
    positionOf (positions program.order) node = .ok (program.position node) := by
  have distinct : (program.order.zipIdx.map Prod.fst).Nodup := by
    rw [List.zipIdx_map_fst]
    exact agrees.nodup_order
  rw [positionOf, Outcome.require_eq_ok_iff, positions, Table.get?_eq_some_iff, Table.entries_ofList distinct,
    List.mk_mem_zipIdx_iff_getElem?]
  exact agrees.getElem?_position live

theorem metadataOf_eq (agrees : program.AgreesOn kids) {node : Node} (live : program.graph.contains node = true) :
    program.metadataOf node = .ok (program.metadata.getD node ∅) := by
  rw [metadataOf, agrees.checkNode_eq_ok_iff.2 live]
  rfl

theorem mem_allEdges (agrees : program.AgreesOn kids) {edge : Edge} :
    edge ∈ program.allEdges ↔ ∃ link, program.graph.links.get? edge.id = some link ∧ edge = link.edge edge.id := by
  rw [allEdges, List.mem_flatMap]
  constructor
  · rintro ⟨node, -, mem⟩
    obtain ⟨link, found, -, same⟩ := agrees.graph.mem_edgesOf.1 mem
    exact ⟨link, found, same⟩
  · rintro ⟨link, found, same⟩
    refine ⟨link.source, agrees.mem_order.2 (agrees.graph.contains_end found .outgoing), ?_⟩
    exact agrees.graph.mem_edgesOf.2 ⟨link, found, rfl, same⟩

theorem live_of_mem_allEdges (agrees : program.AgreesOn kids) {edge : Edge} (mem : edge ∈ program.allEdges) :
    program.graph.contains edge.source.node = true ∧ program.graph.contains edge.target.node = true := by
  obtain ⟨link, found, same⟩ := agrees.mem_allEdges.1 mem
  rw [same]
  exact ⟨agrees.graph.contains_end found .outgoing, agrees.graph.contains_end found .incoming⟩

theorem encodeNode_eq (agrees : program.AgreesOn kids) {node : Node} {op : Op} {ops : Node → OpDoc}
    (found : program.ops.get? node = some op) (encoded : op.encode = .ok (ops node)) :
    program.encodeNode (positions program.order) node = .ok (program.nodeDoc ops node) := by
  have live := agrees.contains_of_get? found
  rw [encodeNode, agrees.parent?_eq live, Outcome.ok_bind, agrees.metadataOf_eq live, Outcome.ok_bind,
    agrees.op_eq_ok_iff.2 found, nodeDoc]
  cases above : program.hierarchy.parent? node with
  | none =>
    simp only [Outcome.pure_eq, Outcome.ok_bind, encoded]
    rfl
  | some parent =>
    have liveParent := (agrees.kids_live parent node ((agrees.stores.parent_iff node parent).1 above)).2
    simp only [agrees.positionOf_eq liveParent, Outcome.pure_eq, Outcome.ok_bind, encoded]
    rfl

theorem encodeEdge_eq (agrees : program.AgreesOn kids) {edge : Edge} (mem : edge ∈ program.allEdges) :
    encodeEdge (positions program.order) edge = .ok (program.edgeDoc edge) := by
  obtain ⟨liveSource, liveTarget⟩ := agrees.live_of_mem_allEdges mem
  rw [encodeEdge, agrees.positionOf_eq liveSource, Outcome.ok_bind, agrees.positionOf_eq liveTarget]
  rfl

/-- If all operations have an external form, then the whole program has one. -/
theorem encode_eq (agrees : program.AgreesOn kids) {ops : Node → OpDoc}
    (encoded : ∀ node op, program.ops.get? node = some op → op.encode = .ok (ops node)) :
    program.encode = .ok ⟨program.order.map (program.nodeDoc ops), program.allEdges.map program.edgeDoc⟩ := by
  have nodes : ∀ node ∈ program.order,
      program.encodeNode (positions program.order) node = .ok (program.nodeDoc ops node) := by
    intro node mem
    obtain ⟨op, found⟩ := agrees.get?_of_contains (agrees.mem_order.1 mem)
    exact agrees.encodeNode_eq found (encoded node op found)
  have edges : ∀ node ∈ program.order, (do
      let edges ← program.graph.edges node (some .outgoing) none
      edges.mapM (encodeEdge (positions program.order)) : Outcome (List EdgeDoc)) =
        .ok ((program.graph.edgesOf node .outgoing).map program.edgeDoc) := by
    intro node mem
    rw [agrees.graph.edges_eq (agrees.mem_order.1 mem), Outcome.ok_bind]
    exact Outcome.mapM_of_forall fun edge leaves => agrees.encodeEdge_eq (List.mem_flatMap_of_mem mem leaves)
  rw [encode, agrees.encodingOrder_eq, Outcome.ok_bind]
  refine Outcome.bind_eq_ok_iff.2 ⟨_, Outcome.mapM_of_forall nodes,
    Outcome.bind_eq_ok_iff.2 ⟨_, Outcome.mapM_of_forall edges, ?_⟩⟩
  rw [allEdges, List.map_flatMap, List.flatMap_def]
  rfl

end AgreesOn

/-- Operations that have documents have them node by node. -/
theorem exists_docs {program : Program}
    (each : ∀ node op, program.ops.get? node = some op → ∃ doc, op.encode = .ok doc) :
    ∃ ops : Node → OpDoc, ∀ node op, program.ops.get? node = some op → op.encode = .ok (ops node) := by
  have chosen : ∀ node, ∃ doc, ∀ op, program.ops.get? node = some op → op.encode = .ok doc := by
    intro node
    cases found : program.ops.get? node with
    | none => exact ⟨.moduleRoot, fun op none => nomatch none⟩
    | some op => exact (each node op found).imp fun doc encoded other same => Option.some.inj same ▸ encoded
  choose ops encoded using chosen
  exact ⟨ops, encoded⟩

/-- A program has a document only if all of its operations have one. -/
theorem AgreesOn.exists_docs_of_encode {program : Program} {kids : Node → List Node} (agrees : program.AgreesOn kids)
    {doc : ProgramDoc} (encoded : program.encode = .ok doc) :
    ∃ ops : Node → OpDoc, ∀ node op, program.ops.get? node = some op → op.encode = .ok (ops node) := by
  apply exists_docs
  intro node op found
  rw [encode, agrees.encodingOrder_eq, Outcome.ok_bind] at encoded
  obtain ⟨parts, written, -⟩ := Outcome.bind_eq_ok_iff.1 encoded
  have isNode := agrees.mem_order.2 (agrees.contains_of_get? found)
  have answered := List.mem_map_of_mem (f := program.encodeNode (positions program.order)) isNode
  rw [Outcome.mapM_eq_ok_iff.1 written, List.mem_map] at answered
  obtain ⟨part, -, same⟩ := answered
  rw [encodeNode, agrees.parent?_eq (agrees.contains_of_get? found), Outcome.ok_bind,
    agrees.metadataOf_eq (agrees.contains_of_get? found), Outcome.ok_bind, agrees.op_eq_ok_iff.2 found] at same
  cases isDoc : op.encode with
  | ok doc => exact ⟨doc, rfl⟩
  | error error =>
    cases above : program.hierarchy.parent? node with
    | none =>
      simp only [above, Outcome.pure_eq, Outcome.ok_bind, isDoc] at same
      cases same
    | some parent =>
      simp only [above, Outcome.pure_eq, Outcome.ok_bind, isDoc] at same
      obtain ⟨position, -, further⟩ := Outcome.bind_eq_ok_iff.1 same.symm
      cases further

end NestedFlow.Program
