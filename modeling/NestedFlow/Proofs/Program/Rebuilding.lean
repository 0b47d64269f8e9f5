import NestedFlow.Proofs.Program.Mirror
import NestedFlow.Proofs.Program.Reachable

/-! How the nodes and edges of a program are rebuilt from its document: a node for each operation, then metadata and
parents, then the edges one by one.
-/

set_option autoImplicit false

namespace NestedFlow

/-- The first node in a slot. -/
def Node.first (index : Nat) : Node := ⟨index, 0⟩

theorem Node.first_inj {left right : Nat} : Node.first left = Node.first right ↔ left = right := by
  rw [Node.first, Node.first, Node.mk.injEq]
  omega

namespace Program

open Hierarchy

/-! ### Nodes without relations -/

/-- The program has one node for each of some operations, in their order, and nothing else. -/
structure Scattered (ops : List Op) (program : Program) : Prop where
  agrees : program.AgreesOn fun _ => []
  live_iff : ∀ node, program.graph.contains node = true ↔ ∃ index < ops.length, node = .first index
  op_at : ∀ (index : Nat) (op : Op), ops[index]? = some op → program.ops.get? (.first index) = some op
  root : program.root = .first 0
  metadata : program.metadata = ∅
  links : program.graph.links = ∅
  free : program.graph.free = []
  size : program.graph.slots.length = ops.length

theorem Scattered.nextNode_eq {ops : List Op} {program : Program} (scattered : Scattered ops program) :
    program.graph.nextNode = .first ops.length := by
  have index : program.graph.nextIndex = ops.length := by
    rw [PortGraph.nextIndex, scattered.free, ← scattered.size]
  have outside : program.graph.slots[ops.length]? = none := List.getElem?_eq_none (Nat.le_of_eq scattered.size)
  rw [PortGraph.nextNode, PortGraph.nextSlot, index, outside]
  rfl

theorem Scattered.grown {ops : List Op} {program : Program} (scattered : Scattered ops program) (op : Op) :
    Scattered (ops ++ [op]) (program.grown op) where
  agrees := scattered.agrees.grown op
  live_iff node := by
    rw [Program.grown, scattered.agrees.graph.contains_grown, Bool.or_eq_true, decide_eq_true_iff,
      scattered.nextNode_eq, scattered.live_iff, List.length_append, List.length_singleton]
    constructor
    · rintro (same | ⟨index, inside, same⟩)
      · exact ⟨ops.length, Nat.lt_succ_self _, same⟩
      · exact ⟨index, Nat.lt_succ_of_lt inside, same⟩
    · rintro ⟨index, inside, same⟩
      rcases Nat.lt_succ_iff_lt_or_eq.1 inside with earlier | last
      · exact .inr ⟨index, earlier, same⟩
      · exact .inl (last ▸ same)
  op_at index found get := by
    rw [Program.grown, Table.get?_insert_eq, scattered.nextNode_eq]
    simp only [Node.first_inj]
    rw [List.getElem?_append, List.getElem?_singleton] at get
    split at get
    · rename_i inside
      rw [if_neg (Nat.ne_of_lt inside)]
      exact scattered.op_at index found get
    · split at get
      · rw [if_pos (by omega)]
        exact get
      · cases get
  root := scattered.root
  metadata := scattered.metadata
  links := (PortGraph.Consistent.links_grown op.portCount).trans scattered.links
  free := by rw [Program.grown, PortGraph.grown, scattered.free]
  size := by
    rw [Program.grown, PortGraph.grown, scattered.free]
    simp [scattered.size]

theorem scattered_ofRoot (op : Op) : Scattered [op] (ofRoot op) where
  agrees := ofRoot_agrees op
  live_iff node := by
    rw [ofRoot_graph, PortGraph.consistent_empty.contains_grown, PortGraph.contains_empty, Bool.or_false,
      decide_eq_true_iff]
    simp only [List.length_singleton, Nat.lt_one_iff, exists_eq_left]
    rfl
  op_at index found get := by
    rw [List.getElem?_singleton] at get
    split at get
    · rename_i here
      rw [here, ofRoot]
      exact get
    · cases get
  root := rfl
  metadata := rfl
  links := rfl
  free := rfl
  size := rfl

/-- Adding the nodes of some operations always succeeds. -/
theorem Scattered.run_addNodes {more ops : List Op} {program : Program} (scattered : Scattered ops program) :
    ∃ copy, (ProgramDoc.addNodes more).run program =
        .ok ((List.range' ops.length more.length).map Node.first) copy ∧ Scattered (ops ++ more) copy := by
  induction more generalizing ops program with
  | nil =>
    refine ⟨program, rfl, ?_⟩
    rwa [List.append_nil]
  | cons op rest ih =>
    obtain ⟨copy, run, result⟩ := ih (scattered.grown op)
    refine ⟨copy, ?_, ?_⟩
    · rw [ProgramDoc.addNodes, Change.run_bind_of_ok (run_addNode program op), Change.run_bind_of_ok run,
        scattered.nextNode_eq, List.length_append, List.length_singleton, List.length_cons, List.range'_succ]
      rfl
    · rwa [List.append_assoc, List.singleton_append] at result

/-! ### Metadata and parents -/

/-- The node of the copy for a node. -/
def place (program : Program) (node : Node) : Node := .first (program.position node)

/-- The children of a node of the copy after some nodes have got their parents. -/
def placedKids (program : Program) (done : List Node) (node : Node) : List Node :=
  (done.filter fun child => (program.hierarchy.parent? child).map program.place = some node).map program.place

/-- The nodes of the copy in the order of the document. -/
def places (program : Program) : List Node := (List.range program.order.length).map Node.first

section

variable {program : Program} {kids : Node → List Node}

theorem AgreesOn.place_inj (agrees : program.AgreesOn kids) {first second : Node}
    (liveFirst : program.graph.contains first = true) (liveSecond : program.graph.contains second = true) :
    program.place first = program.place second ↔ first = second := by
  rw [place, place, Node.first_inj, agrees.position_eq_iff liveFirst, agrees.getElem?_position liveSecond,
    Option.some.injEq, eq_comm]

theorem AgreesOn.getElem?_places (agrees : program.AgreesOn kids) {node : Node}
    (live : program.graph.contains node = true) : program.places[program.position node]? = some (program.place node) := by
  have inside := List.idxOf_lt_length_of_mem (agrees.mem_order.2 live)
  rw [places, List.getElem?_map, position, List.getElem?_range inside]
  rfl

theorem AgreesOn.place_root (agrees : program.AgreesOn kids) : program.place program.root = .first 0 := by
  obtain ⟨rest, isOrder⟩ := agrees.head_order
  rw [place, position, isOrder, List.idxOf_cons_self]

theorem AgreesOn.live_of_parent? (agrees : program.AgreesOn kids) {node parent : Node}
    (above : program.hierarchy.parent? node = some parent) :
    program.graph.contains node = true ∧ program.graph.contains parent = true :=
  agrees.kids_live parent node ((agrees.stores.parent_iff node parent).1 above)

/-- The places of the children of a live node, among those that were built. -/
theorem AgreesOn.placedKids_place (agrees : program.AgreesOn kids) {done : List Node} {node : Node}
    (live : program.graph.contains node = true) :
    program.placedKids done (program.place node) =
      (done.filter fun child => child ∈ kids node).map program.place := by
  rw [placedKids]
  congr 2
  funext child
  rw [decide_eq_decide, ← agrees.stores.parent_iff child node]
  change (program.hierarchy.parent? child).map program.place = _ ↔ program.hierarchy.parent? child = some node
  cases above : program.hierarchy.parent? child with
  | none => simp
  | some parent =>
    rw [Option.map_some, Option.some.injEq, Option.some.injEq, agrees.place_inj (agrees.live_of_parent? above).2 live]

theorem filter_mem_eq {α : Type} [DecidableEq α] {part items : List α} (sub : part.Sublist items)
    (distinct : items.Nodup) : (items.filter fun item => item ∈ part) = part := by
  symm
  apply List.Sublist.eq_of_length
  · have kept := sub.filter fun item => decide (item ∈ part)
    rwa [List.filter_eq_self.2 (by simp)] at kept
  · apply List.Perm.length_eq
    rw [List.perm_ext_iff_of_nodup (sub.nodup distinct) (distinct.filter _)]
    intro item
    rw [List.mem_filter, decide_eq_true_iff]
    exact ⟨fun mem => ⟨sub.subset mem, mem⟩, And.right⟩

/-- In the end the children have the order that they have in the program. -/
theorem AgreesOn.placedKids_order (agrees : program.AgreesOn kids) {node : Node}
    (live : program.graph.contains node = true) :
    program.placedKids program.order (program.place node) = (kids node).map program.place := by
  rw [agrees.placedKids_place live,
    filter_mem_eq ((List.sublist_cons_self _ _).trans (agrees.children_sublist_order live)) agrees.nodup_order]

end

/-- The parts of a document for the nodes name the positions of their parents. -/
def Parented (program : Program) (docs : Node → NodeDoc) : Prop :=
  ∀ node, (docs node).parent = (program.hierarchy.parent? node).map fun parent => (program.position parent : Int)

/-- Some nodes have their metadata in the copy, the others have none yet. -/
def Described (program : Program) (docs : Node → NodeDoc) (done : List Node)
    (metadata : Table Node (Table String Json)) : Prop :=
  ∀ node, program.graph.contains node = true → metadata.getD (program.place node) ∅ =
    if node ∈ done then .ofList ((docs node).metadata.getD []) else ∅

/-- What is in the copy after some nodes have got their metadata and parents, and some edges were added. -/
structure Built (program : Program) (target : Node → Op) (docs : Node → NodeDoc) (done : List Node)
    (edges : List Edge) (copy : Program) : Prop where
  agrees : copy.AgreesOn (program.placedKids done)
  live_iff : ∀ node, copy.graph.contains node = true ↔
    ∃ original, program.graph.contains original = true ∧ node = program.place original
  root : copy.root = program.place program.root
  ops : ∀ node, program.graph.contains node = true → copy.ops.get? (program.place node) = some (target node)
  metadata : program.Described docs done copy.metadata
  edges : ∀ port, (copy.graph.edgesAt port).map (Edge.shape id) =
    (edges.filter fun edge => (edge.port port.direction).rename program.place = port).map (Edge.shape program.place)

/-- Metadata of a live node is added entry by entry. -/
theorem AgreesOn.run_decodeMetadata {copy : Program} {kids : Node → List Node} (agrees : copy.AgreesOn kids)
    {node : Node} (live : copy.graph.contains node = true) (doc : NodeDoc) :
    ∃ metadata, ProgramDoc.decodeMetadata copy node doc = .ok { copy with metadata := metadata } ∧
      (∀ other ∈ metadata.keys, copy.graph.contains other = true) ∧
      (∀ other, metadata.getD other ∅ = if other = node then
        (doc.metadata.getD []).foldl (fun table entry => table.insert entry.1 entry.2) (copy.metadata.getD node ∅)
        else copy.metadata.getD other ∅) := by
  rw [ProgramDoc.decodeMetadata]
  generalize doc.metadata.getD [] = entries
  induction entries generalizing copy with
  | nil =>
    refine ⟨copy.metadata, rfl, agrees.metadata_live, fun other => ?_⟩
    split
    · rename_i same
      rw [same, List.foldl_nil]
    · rfl
  | cons entry rest ih =>
    have set : (setMetadata node entry.1 entry.2).after copy = .ok { copy with
        metadata := copy.metadata.insert node ((copy.metadata.getD node ∅).insert entry.1 entry.2) } := by
      rw [Change.after_eq_ok_iff, setMetadata, Change.run_ask_bind, agrees.checkNode_eq_ok_iff.2 live]
      rfl
    have alive : ∀ other ∈ (copy.metadata.insert node ((copy.metadata.getD node ∅).insert entry.1 entry.2)).keys,
        copy.graph.contains other = true := by
      intro other mem
      rcases Table.mem_keys_insert.1 mem with same | old
      · rwa [same]
      · exact agrees.metadata_live other old
    obtain ⟨metadata, folded, keys, answers⟩ := ih (agrees.withMetadata alive) live
    refine ⟨metadata, ?_, keys, fun other => ?_⟩
    · rw [List.foldlM_cons]
      exact Outcome.bind_eq_ok_iff.2 ⟨_, set, folded⟩
    · rw [answers, List.foldl_cons]
      simp only [Table.getD_eq, Table.get?_insert_eq, if_true, Option.getD_some]
      split
      · rfl
      · rfl

section

variable {program copy : Program} {kids : Node → List Node} {target : Node → Op} {docs : Node → NodeDoc}
  {done rest : List Node} {edges : List Edge} {node parent : Node}

theorem placedKids_concat_top (top : program.hierarchy.parent? node = none) :
    program.placedKids (done ++ [node]) = program.placedKids done := by
  funext other
  rw [placedKids, placedKids, List.filter_append, List.filter_singleton, top]
  simp

theorem placedKids_concat (above : program.hierarchy.parent? node = some parent) :
    program.placedKids (done ++ [node]) = withKids (program.placedKids done) (program.place parent)
      (program.placedKids done (program.place parent) ++ [program.place node]) := by
  funext other
  rw [placedKids, List.filter_append, List.filter_singleton, above, Option.map_some, withKids]
  by_cases here : other = program.place parent
  · simp [here, placedKids]
  · have elsewhere : program.place parent ≠ other := Ne.symm here
    simp [here, elsewhere, placedKids]

/-- The children of a node come after it, so none of them is built yet when it is its turn. -/
theorem AgreesOn.placedKids_next (agrees : program.AgreesOn kids) (split : program.order = done ++ node :: rest) :
    program.placedKids done (program.place node) = [] := by
  have live : program.graph.contains node = true := agrees.mem_order.1 (by simp [split])
  have distinct := agrees.nodup_order
  rw [split] at distinct
  rw [agrees.placedKids_place live, List.map_eq_nil_iff, List.filter_eq_nil_iff]
  intro child isDone
  rw [decide_eq_true_iff]
  intro isChild
  -- the child would have to stand behind the node, which is not among those that are done
  have pair : [node, child].Sublist (done ++ node :: rest) :=
    split ▸ ((List.singleton_sublist.2 isChild).cons_cons node).trans (agrees.children_sublist_order live)
  obtain ⟨first, second, same, inDone, inRest⟩ := List.sublist_append_iff.1 pair
  cases first with
  | nil =>
    rw [List.nil_append] at same
    rw [← same, List.cons_sublist_cons] at inRest
    have later := List.mem_cons_of_mem node (inRest.subset (List.mem_singleton_self child))
    exact (List.nodup_append.1 distinct).2.2 child isDone child later rfl
  | cons head tail =>
    rw [List.cons_append, List.cons.injEq] at same
    exact not_mem_of_split distinct (inDone.subset (by rw [← same.1]; exact List.mem_cons_self))

/-- A node comes after its parent and before its children, so it can still be built. -/
theorem AgreesOn.attachable_place (agrees : program.AgreesOn kids) (split : program.order = done ++ node :: rest)
    (above : program.hierarchy.parent? node = some parent) :
    Attachable (program.placedKids done) (program.place node) (program.place parent) := by
  obtain ⟨live, liveParent⟩ := agrees.live_of_parent? above
  have fresh : node ∉ done := not_mem_of_split (split ▸ agrees.nodup_order)
  refine ⟨fun other mem => ?_, fun same => ?_, fun path => ?_⟩
  · obtain ⟨child, isDone, same⟩ := List.mem_map.1 mem
    have mem := (List.mem_filter.1 isDone).1
    have liveChild := agrees.mem_order.1 (split ▸ List.mem_append_left _ mem)
    exact fresh ((agrees.place_inj liveChild live).1 same ▸ mem)
  · rw [agrees.place_inj live liveParent] at same
    rw [same] at above
    exact agrees.stores.not_above_self parent (.single ((agrees.stores.parent_iff _ _).1 above))
  · obtain ⟨child, holds, -⟩ := Relation.TransGen.head'_iff.1 path
    rw [Holds, agrees.placedKids_next split] at holds
    cases holds

/-- The metadata of one node more is what its part of the document says. -/
theorem Described.concat (agrees : program.AgreesOn kids) {old metadata : Table Node (Table String Json)}
    (described : program.Described docs done old) (live : program.graph.contains node = true) (fresh : node ∉ done)
    (answers : ∀ other, metadata.getD other ∅ = if other = program.place node then
      ((docs node).metadata.getD []).foldl (fun table entry => table.insert entry.1 entry.2)
        (old.getD (program.place node) ∅)
      else old.getD other ∅) : program.Described docs (done ++ [node]) metadata := by
  intro other liveOther
  rw [answers, described node live, described other liveOther, if_neg fresh]
  by_cases same : other = node
  · subst same
    rw [if_pos rfl, if_pos (List.mem_append_right _ (List.mem_singleton_self _))]
    rfl
  · have apart : program.place other ≠ program.place node := mt (agrees.place_inj liveOther live).1 same
    simp [apart, same]

/-- The next node gets its metadata and its parent. -/
theorem Built.attach (agrees : program.AgreesOn kids) (parents : program.Parented docs)
    (built : Built program target docs done edges copy) (split : program.order = done ++ node :: rest) :
    ∃ after, ProgramDoc.decodeNode program.places copy (docs node, program.position node) = .ok after ∧
      Built program target docs (done ++ [node]) edges after := by
  have isNode : node ∈ program.order := by simp [split]
  have live := agrees.mem_order.1 isNode
  have fresh : node ∉ done := not_mem_of_split (split ▸ agrees.nodup_order)
  have alive : ∀ {other}, program.graph.contains other = true → copy.graph.contains (program.place other) = true :=
    fun held => (built.live_iff _).2 ⟨_, held, rfl⟩
  obtain ⟨metadata, described, keys, answers⟩ := built.agrees.run_decodeMetadata (alive live) (docs node)
  have described' := built.metadata.concat agrees live fresh answers
  have middle := built.agrees.withMetadata keys
  rw [ProgramDoc.decodeNode]
  simp only [agrees.getElem?_places live, require, Outcome.pure_eq, Outcome.ok_bind, described, parents node]
  cases above : program.hierarchy.parent? node with
  | none =>
    refine ⟨_, rfl, ?_, built.live_iff, built.root, built.ops, described', built.edges⟩
    rwa [placedKids_concat_top above]
  | some parent =>
    have liveParent := (agrees.live_of_parent? above).2
    have notRoot : program.place node ≠ copy.root := by
      rw [built.root]
      intro same
      rw [agrees.place_inj live agrees.root_live] at same
      exact agrees.root_top parent ((agrees.stores.parent_iff _ _).1 (same ▸ above))
    obtain ⟨hierarchy, run, result⟩ := middle.run_setParent (alive live) (alive liveParent) notRoot
      (agrees.attachable_place split above)
    refine ⟨{ copy with metadata := metadata, hierarchy := hierarchy }, ?_, ?_, built.live_iff, built.root,
      built.ops, described', built.edges⟩
    · have nonnegative : ¬ ((program.position parent : Int) < 0) := by omega
      simp only [Option.map_some, nonnegative, if_false, Int.toNat_natCast, agrees.getElem?_places liveParent]
      exact relay_eq_ok_iff.2 (Change.after_eq_ok_iff.2 run)
    · rw [placedKids_concat above]
      exact result

theorem zipIdx_eq {α : Type} [DecidableEq α] {items : List α} (distinct : items.Nodup) :
    items.zipIdx = items.map fun item => (item, items.idxOf item) := by
  apply List.ext_getElem
  · simp
  · intro index inside _
    rw [List.getElem_zipIdx, List.getElem_map, Nat.zero_add, distinct.idxOf_getElem]

/-- The nodes of the copy, before they get anything but their operations. -/
theorem AgreesOn.built_start (agrees : program.AgreesOn kids)
    (scattered : Scattered (program.order.map target) copy) : Built program target docs [] [] copy where
  agrees := scattered.agrees
  live_iff node := by
    rw [scattered.live_iff, List.length_map]
    constructor
    · rintro ⟨index, inside, same⟩
      have live := agrees.mem_order.1 (List.getElem_mem inside)
      refine ⟨_, live, ?_⟩
      rw [same, place, (agrees.position_eq_iff live).2 (List.getElem?_eq_getElem inside)]
    · rintro ⟨original, live, same⟩
      exact ⟨_, List.idxOf_lt_length_of_mem (agrees.mem_order.2 live), same⟩
  root := scattered.root.trans agrees.place_root.symm
  ops node live := by
    apply scattered.op_at
    rw [List.getElem?_map, agrees.getElem?_position live]
    rfl
  metadata node _ := by
    rw [scattered.metadata]
    rfl
  edges port := by
    have unlinked : copy.graph.edgesAt port = [] := by
      apply List.eq_nil_iff_forall_not_mem.2
      intro edge mem
      obtain ⟨link, found, -⟩ := scattered.agrees.graph.mem_edgesAt.1 mem
      rw [scattered.links] at found
      cases found
    rw [unlinked]
    rfl

/-- All nodes get their metadata and parents. -/
theorem AgreesOn.run_decodeNodes (agrees : program.AgreesOn kids) (parents : program.Parented docs)
    (scattered : Scattered (program.order.map target) copy) :
    ∃ after, (program.order.map docs).zipIdx.foldlM (ProgramDoc.decodeNode program.places) copy = .ok after ∧
      Built program target docs program.order [] after := by
  have numbered : (program.order.map docs).zipIdx =
      program.order.map fun node => (docs node, program.position node) := by
    rw [List.zipIdx_map, zipIdx_eq agrees.nodup_order, List.map_map]
    rfl
  rw [numbered, List.foldlM_map]
  apply Outcome.foldlM_reaches fun done after => Built program target docs done [] after
  · exact fun done node rest before split built => built.attach agrees parents split
  · exact agrees.built_start scattered

/-! ### Edges -/

/-- The ends of some edges are ports of some operations. -/
def Fit (target : Node → Op) (edges : List Edge) : Prop :=
  ∀ edge ∈ edges, ∀ direction, (edge.port direction).offset < (target (edge.port direction).node).portCount direction

/-- An edge of a program starts at an output and ends at an input. -/
theorem AgreesOn.ends_of_mem_allEdges (agrees : program.AgreesOn kids) {edge : Edge} (mem : edge ∈ program.allEdges)
    (direction : Direction) : (edge.port direction).direction = direction ∧ 0 ≤ (edge.port direction).offset ∧
      program.graph.contains (edge.port direction).node = true := by
  obtain ⟨link, found, same⟩ := agrees.mem_allEdges.1 mem
  have isEnd : edge.port direction = link.port direction := by rw [same, link.port_edge]
  have listed := agrees.graph.mem_idsAt found direction
  rw [isEnd]
  exact ⟨rfl, (PortGraph.hasPort_of_mem_idsAt listed).1, PortGraph.contains_of_mem_idsAt listed⟩

theorem Built.hasPort_iff (built : Built program target docs done edges copy) {port : Port}
    (live : program.graph.contains port.node = true) (lower : 0 ≤ port.offset) :
    copy.graph.HasPort (port.rename program.place) ↔ port.offset < (target port.node).portCount port.direction := by
  change 0 ≤ port.offset ∧
    port.offset < ((copy.graph.portsOf (program.place port.node) port.direction).length : Int) ↔ _
  rw [built.agrees.portTotals _ _ (built.ops port.node live), and_iff_right lower]

theorem AgreesOn.decodeEdge_eq (agrees : program.AgreesOn kids) {edge : Edge} (mem : edge ∈ program.allEdges)
    (copy : Program) : ProgramDoc.decodeEdge program.places copy (program.edgeDoc edge) =
      relay (program.position edge.source.node) .relayed ((do
        let _ ← onGraph (PortGraph.connect (edge.source.rename program.place) (edge.target.rename program.place)
          edge.kind) : Change Program Unit).after copy) := by
  have atEnd : ∀ direction, ProgramDoc.edgeEnd program.places (program.edgeDoc edge) (program.position (edge.port direction).node) =
      .ok (program.place (edge.port direction).node) := by
    intro direction
    have nonnegative : ¬ ((program.position (edge.port direction).node : Int) < 0) := by omega
    simp only [ProgramDoc.edgeEnd, nonnegative, if_false, Int.toNat_natCast,
      agrees.getElem?_places (agrees.ends_of_mem_allEdges mem direction).2.2]
    rfl
  have source := (agrees.ends_of_mem_allEdges mem .outgoing).1
  have target := (agrees.ends_of_mem_allEdges mem .incoming).1
  have isSource : (program.place edge.source.node).outputPort edge.source.offset = edge.source.rename program.place := by
    rw [Port.rename, show edge.source.direction = .outgoing from source]
    rfl
  have isTarget : (program.place edge.target.node).inputPort edge.target.offset = edge.target.rename program.place := by
    rw [Port.rename, show edge.target.direction = .incoming from target]
    rfl
  rw [← isSource, ← isTarget]
  exact (Outcome.bind_eq_of_ok (atEnd .outgoing)).trans (Outcome.bind_eq_of_ok (atEnd .incoming))

/-- The next edge is added if its ends are ports of the operations. -/
theorem Built.link (agrees : program.AgreesOn kids) (built : Built program target docs done edges copy) {edge : Edge}
    (mem : edge ∈ program.allEdges) (fit : Fit target [edge]) :
    ∃ after, ProgramDoc.decodeEdge program.places copy (program.edgeDoc edge) = .ok after ∧
      Built program target docs done (edges ++ [edge]) after := by
  have has : ∀ direction, copy.graph.HasPort ((edge.port direction).rename program.place) := by
    intro direction
    obtain ⟨side, lower, live⟩ := agrees.ends_of_mem_allEdges mem direction
    rw [built.hasPort_iff live lower, side]
    exact fit edge (List.mem_singleton_self edge) direction
  have out : (edge.source.rename program.place).direction = .outgoing := (agrees.ends_of_mem_allEdges mem .outgoing).1
  have into : (edge.target.rename program.place).direction = .incoming :=
    (agrees.ends_of_mem_allEdges mem .incoming).1
  refine ⟨{ copy with
      graph := copy.graph.linked (edge.source.rename program.place) (edge.target.rename program.place) edge.kind }, ?_,
    built.agrees.linked edge.kind out into (has .outgoing) (has .incoming), fun node => ?_, built.root, built.ops,
    built.metadata, fun port => ?_⟩
  · rw [agrees.decodeEdge_eq mem, relay_eq_ok_iff, Change.after_eq_ok_iff]
    exact Change.run_bind_of_ok
      (run_onGraph_of_ok (PortGraph.run_connect edge.kind out into (has .outgoing) (has .incoming)))
  · exact (congrArg (· = true) (PortGraph.contains_linked edge.kind (has .outgoing) (has .incoming) node)).to_iff.trans
      (built.live_iff node)
  · -- the edge is listed at a port exactly if its end on the side of the port is there
    have atPort : (port = edge.source.rename program.place ∨ port = edge.target.rename program.place) ↔
        (edge.port port.direction).rename program.place = port := by
      constructor
      · rintro (same | same)
        · rw [same, out]
          rfl
        · rw [same, into]
          rfl
      · intro same
        cases side : port.direction with
        | outgoing => exact .inl (by rw [← same, side]; rfl)
        | incoming => exact .inr (by rw [← same, side]; rfl)
    rw [built.agrees.graph.edgesAt_linked edge.kind out into (has .outgoing) (has .incoming), List.filter_append,
      List.map_append, ← built.edges, List.filter_singleton]
    by_cases here : (edge.port port.direction).rename program.place = port
    · rw [if_pos (atPort.2 here), decide_eq_true here, List.map_append]
      rfl
    · rw [if_neg (mt atPort.1 here), decide_eq_false here]
      simp

/-- All edges are added if their ends are ports of the operations. -/
theorem Built.run_decodeEdges (agrees : program.AgreesOn kids) (built : Built program target docs done [] copy)
    (fit : Fit target program.allEdges) :
    ∃ after, (program.allEdges.map program.edgeDoc).foldlM (ProgramDoc.decodeEdge program.places) copy = .ok after ∧
      Built program target docs done program.allEdges after := by
  rw [List.foldlM_map]
  refine Outcome.foldlM_reaches (fun edges after => Built program target docs done edges after) ?_ built
  intro edges edge rest before split held
  have mem : edge ∈ program.allEdges := by simp [split]
  apply held.link agrees mem
  intro other same
  rw [List.mem_singleton.1 same]
  exact fit edge mem

/-- An edge that was added has ends that are ports of the operations, -/
theorem Built.fit_of_link (agrees : program.AgreesOn kids) (built : Built program target docs done edges copy)
    {edge : Edge} (mem : edge ∈ program.allEdges) {after : Program}
    (added : ProgramDoc.decodeEdge program.places copy (program.edgeDoc edge) = .ok after) : Fit target [edge] := by
  rw [agrees.decodeEdge_eq mem, relay_eq_ok_iff, Change.after_eq_ok_iff, Change.run_bind_eq_ok_iff] at added
  obtain ⟨_, _, connected, -⟩ := added
  by_contra unfit
  obtain ⟨error, run⟩ := @PortGraph.run_connect_of_not copy.graph (edge.source.rename program.place)
    (edge.target.rename program.place) edge.kind fun held => unfit fun other same direction => by
      rw [List.mem_singleton.1 same]
      obtain ⟨side, lower, live⟩ := agrees.ends_of_mem_allEdges mem direction
      have has : copy.graph.HasPort ((edge.port direction).rename program.place) := by
        cases direction with
        | outgoing => exact held.2.2.1
        | incoming => exact held.2.2.2
      rw [built.hasPort_iff live lower, side] at has
      exact has
  rw [run_onGraph_of_error run] at connected
  cases connected

/-- and so have all edges if all were added. -/
theorem Built.fit_of_run (agrees : program.AgreesOn kids) (built : Built program target docs done [] copy)
    {after : Program}
    (folded : (program.allEdges.map program.edgeDoc).foldlM (ProgramDoc.decodeEdge program.places) copy = .ok after) :
    Fit target program.allEdges := by
  rw [List.foldlM_map] at folded
  have nothing : Fit target [] := fun _ mem => absurd mem List.not_mem_nil
  refine (Outcome.foldlM_traces (fun edges copy => Built program target docs done edges copy ∧ Fit target edges) ?_
    ⟨built, nothing⟩ folded).2
  rintro edges edge rest before next split ⟨held, earlier⟩ added
  have mem : edge ∈ program.allEdges := by simp [split]
  have fit := held.fit_of_link agrees mem added
  obtain ⟨linked, same, kept⟩ := held.link agrees mem fit
  obtain rfl : next = linked := Except.ok.inj (added.symm.trans same)
  refine ⟨kept, fun other isOther => ?_⟩
  rcases List.mem_append.1 isOther with before | last
  · exact earlier other before
  · exact fit other last

end

end Program

end NestedFlow
