import NestedFlow.Proofs.Program.Rebuilding

/-! What decoding the document of a program gives: a program with the same structure. -/

set_option autoImplicit false

namespace NestedFlow.Program

open Hierarchy

variable {program copy : Program} {kids : Node → List Node} {target : Node → Op} {docs : Node → NodeDoc}

/-! ### Whole documents -/

/-- All operations of a program are read. -/
def Reads (registry : Registry) (program : Program) (docs : Node → NodeDoc) : Prop :=
  ∀ node, program.graph.contains node = true → ∃ op, (docs node).op.decode registry = .ok op

/-- The operation that is read for a node. -/
def readOp (registry : Registry) (docs : Node → NodeDoc) (node : Node) : Op :=
  match (docs node).op.decode registry with
  | .ok op => op
  | .error _ => .moduleRoot

theorem readOp_of_decode {registry : Registry} {docs : Node → NodeDoc} {node : Node} {op : Op}
    (decoded : (docs node).op.decode registry = .ok op) : readOp registry docs node = op := by
  rw [readOp, decoded]

theorem decodeOp_eq_ok_iff {registry : Registry} {doc : NodeDoc} {position : Nat} {op : Op} :
    ProgramDoc.decodeOp registry (doc, position) = .ok op ↔ doc.op.decode registry = .ok op := by
  rw [ProgramDoc.decodeOp]
  cases doc.op.decode registry with
  | ok found => rfl
  | error error =>
    simp only [reduceCtorEq, iff_false]
    split
    · simp [failAtPosition]
    · simp [failAtPosition]
    · simp [relay_eq_ok_iff]

/-- The document of a program, with some parts for the nodes. -/
def docWith (program : Program) (docs : Node → NodeDoc) : ProgramDoc :=
  ⟨program.order.map docs, program.allEdges.map program.edgeDoc⟩

theorem AgreesOn.readOps_eq (agrees : program.AgreesOn kids) (registry : Registry)
    (reads : program.Reads registry docs) :
    (program.order.map docs).zipIdx.mapM (ProgramDoc.decodeOp registry) =
      .ok (program.order.map (readOp registry docs)) := by
  rw [List.zipIdx_map, zipIdx_eq agrees.nodup_order, List.map_map, Outcome.mapM_eq_ok_iff, List.map_map, List.map_map]
  apply List.map_congr_left
  intro node mem
  obtain ⟨op, read⟩ := reads node (agrees.mem_order.1 mem)
  have same : readOp registry docs node = op := readOp_of_decode read
  change _ = Except.ok (readOp registry docs node)
  rw [same]
  exact decodeOp_eq_ok_iff.2 read

theorem decode_of_read {registry : Registry} {doc : ProgramDoc} {first : NodeDoc} {others : List NodeDoc} {rootOp : Op}
    {rest : List Op} {added : List Node} {start : Program} (nodes : doc.nodes = first :: others)
    (top : first.parent = none) (read : doc.nodes.zipIdx.mapM (ProgramDoc.decodeOp registry) = .ok (rootOp :: rest))
    (run : (ProgramDoc.addNodes rest).run (ofRoot rootOp) = .ok added start) :
    doc.decode registry = (do
      let copy ← doc.nodes.zipIdx.foldlM (ProgramDoc.decodeNode ((ofRoot rootOp).root :: added)) start
      doc.edges.foldlM (ProgramDoc.decodeEdge ((ofRoot rootOp).root :: added)) copy) := by
  obtain ⟨parts, edges⟩ := doc
  dsimp only at nodes read ⊢
  subst nodes
  have added' : ProgramDoc.addNodes rest (ofRoot rootOp) = .ok added start := run
  rw [ProgramDoc.decode]
  simp only [List.isEmpty_cons, Bool.false_eq_true, if_false, read, Outcome.ok_bind, top, Option.isSome_none, added']

/-- If all operations are read, then the nodes are rebuilt, and the edges are what remains. -/
theorem AgreesOn.decode_eq (agrees : program.AgreesOn kids) (registry : Registry)
    (parents : program.Parented docs) (reads : program.Reads registry docs) :
    ∃ copy, Built program (readOp registry docs) docs program.order [] copy ∧
      (program.docWith docs).decode registry =
        (program.allEdges.map program.edgeDoc).foldlM (ProgramDoc.decodeEdge program.places) copy := by
  obtain ⟨rest, isOrder⟩ := agrees.head_order
  obtain ⟨start, run, scattered⟩ :=
    @Scattered.run_addNodes (rest.map (readOp registry docs)) _ _ (scattered_ofRoot (readOp registry docs program.root))
  have all : program.order.map (readOp registry docs) =
      [readOp registry docs program.root] ++ rest.map (readOp registry docs) := by rw [isOrder]; rfl
  have nodes : program.places = (ofRoot (readOp registry docs program.root)).root ::
      (List.range' 1 rest.length).map Node.first := by
    rw [places, isOrder, List.length_cons, List.range_eq_range', List.range'_succ, List.map_cons]
    rfl
  rw [← all] at scattered
  obtain ⟨copy, folded, built⟩ := agrees.run_decodeNodes parents scattered
  refine ⟨copy, built, ?_⟩
  have top : (docs program.root).parent = none := by
    rw [parents, (agrees.stores.parent?_eq_none_iff program.root).2 agrees.root_top]
    rfl
  have read := agrees.readOps_eq registry reads
  rw [all] at read
  -- the root is made with the program, and the others are added to it in their order
  have first : (program.docWith docs).nodes = docs program.root :: rest.map docs := by
    rw [docWith, isOrder, List.map_cons]
  rw [decode_of_read first top read run]
  change (do
    let copy ← (program.order.map docs).zipIdx.foldlM (ProgramDoc.decodeNode _) start
    (program.allEdges.map program.edgeDoc).foldlM (ProgramDoc.decodeEdge _) copy) = _
  rw [List.length_singleton, List.length_map, ← nodes, folded, Outcome.ok_bind]

/-- Decoding rebuilds a program if all operations are read and have the ports that the edges need, -/
theorem AgreesOn.decode_docWith (agrees : program.AgreesOn kids) (registry : Registry)
    (parents : program.Parented docs) (reads : program.Reads registry docs)
    (fit : Fit (readOp registry docs) program.allEdges) :
    ∃ copy, (program.docWith docs).decode registry = .ok copy ∧
      Built program (readOp registry docs) docs program.order program.allEdges copy := by
  obtain ⟨start, built, decoded⟩ := agrees.decode_eq registry parents reads
  rw [decoded]
  exact built.run_decodeEdges agrees fit

/-- and only then. -/
theorem AgreesOn.reads_and_fit (agrees : program.AgreesOn kids) (registry : Registry)
    (parents : program.Parented docs)
    (decoded : (program.docWith docs).decode registry = .ok copy) :
    program.Reads registry docs ∧ Fit (readOp registry docs) program.allEdges := by
  have reads : program.Reads registry docs := by
    intro node live
    have isPart : (docs node, program.position node) ∈ (program.docWith docs).nodes.zipIdx := by
      rw [docWith, List.zipIdx_map, zipIdx_eq agrees.nodup_order, List.map_map]
      exact List.mem_map.2 ⟨node, agrees.mem_order.2 live, rfl⟩
    rw [ProgramDoc.decode] at decoded
    split at decoded
    · cases decoded
    · obtain ⟨ops, read, -⟩ := Outcome.bind_eq_ok_iff.1 decoded
      rw [Outcome.mapM_eq_ok_iff] at read
      have answered := List.mem_map_of_mem (f := ProgramDoc.decodeOp registry) isPart
      rw [read, List.mem_map] at answered
      obtain ⟨op, -, same⟩ := answered
      exact ⟨op, decodeOp_eq_ok_iff.1 same.symm⟩
  refine ⟨reads, ?_⟩
  obtain ⟨start, built, same⟩ := agrees.decode_eq registry parents reads
  rw [same] at decoded
  exact built.fit_of_run agrees decoded

/-! ### The copy as a mirror -/

/-- What belongs to a key, out of the parts that belong to distinct keys. -/
theorem filter_flatMap_eq {α β : Type} [DecidableEq α] {keys : List α} {parts : α → List β} {key : β → α} {one : α}
    (distinct : keys.Nodup) (keyed : ∀ other ∈ keys, ∀ item ∈ parts other, key item = other)
    (absent : one ∉ keys → parts one = []) : ((keys.flatMap parts).filter fun item => key item = one) = parts one := by
  induction keys with
  | nil => exact (absent List.not_mem_nil).symm
  | cons first rest ih =>
    rw [List.nodup_cons] at distinct
    have others : ∀ other ∈ rest, ∀ item ∈ parts other, key item = other :=
      fun other mem => keyed other (List.mem_cons_of_mem _ mem)
    rw [List.flatMap_cons, List.filter_append]
    by_cases here : first = one
    · subst here
      have none : ((rest.flatMap parts).filter fun item => key item = first) = [] := by
        rw [List.filter_eq_nil_iff]
        intro item mem
        obtain ⟨other, isOther, isPart⟩ := List.mem_flatMap.1 mem
        rw [others other isOther item isPart, decide_eq_true_iff]
        exact fun same => distinct.1 (same ▸ isOther)
      rw [none, List.append_nil, List.filter_eq_self]
      intro item mem
      exact decide_eq_true (keyed first List.mem_cons_self item mem)
    · have none : ((parts first).filter fun item => key item = one) = [] := by
        rw [List.filter_eq_nil_iff]
        intro item mem
        rw [keyed first List.mem_cons_self item mem, decide_eq_true_iff]
        exact here
      rw [none, List.nil_append, ih distinct.2 others]
      intro outside
      apply absent
      rw [List.mem_cons, not_or]
      exact ⟨Ne.symm here, outside⟩

/-- The edges of an output, out of all edges. -/
theorem AgreesOn.filter_source (agrees : program.AgreesOn kids) (node : Node) (offset : Int) :
    (program.allEdges.filter fun edge => edge.source = node.outputPort offset) =
      program.graph.edgesAt (node.outputPort offset) := by
  -- all edges are those of one node after another, and those of a node are those of one offset after another
  have atNode : (program.allEdges.filter fun edge => edge.source.node = node) = program.graph.edgesOf node .outgoing := by
    apply @filter_flatMap_eq _ _ _ _ _ (fun edge : Edge => edge.source.node) node agrees.nodup_order
    · intro other _ edge mem
      obtain ⟨link, -, isEnd, same⟩ := agrees.graph.mem_edgesOf.1 mem
      rw [same]
      exact isEnd
    · intro outside
      apply List.eq_nil_iff_forall_not_mem.2
      intro edge mem
      obtain ⟨link, found, isEnd, -⟩ := agrees.graph.mem_edgesOf.1 mem
      exact outside (agrees.mem_order.2 (isEnd ▸ agrees.graph.contains_end found .outgoing))
  have atPort : ((program.graph.edgesOf node .outgoing).filter fun edge => edge.source.offset = offset) =
      program.graph.edgesAt (node.outputPort offset) := by
    rw [PortGraph.edgesOf_eq]
    apply @filter_flatMap_eq _ _ _ _ (fun offset => program.graph.edgesAt ⟨node, .outgoing, offset⟩)
      (fun edge : Edge => edge.source.offset) offset
    · exact List.nodup_range.map fun _ _ same => Int.ofNat.inj same
    · intro other _ edge mem
      obtain ⟨link, -, isEnd, same⟩ := agrees.graph.mem_edgesAt.1 mem
      rw [same]
      exact congrArg Port.offset isEnd
    · intro outside
      exact PortGraph.edgesAt_of_not_hasPort fun has => outside (PortGraph.mem_offsets.2 has)
  rw [← atPort, ← atNode, List.filter_filter]
  apply List.filter_congr
  intro edge mem
  have out : edge.source.direction = .outgoing := (agrees.ends_of_mem_allEdges mem .outgoing).1
  obtain ⟨id, ⟨node, direction, offset⟩, target, kind⟩ := edge
  cases out
  rw [← Bool.decide_and, decide_eq_decide, Node.outputPort, Port.mk.injEq]
  simp [and_comm]

theorem AgreesOn.nodup_allEdges (agrees : program.AgreesOn kids) : program.allEdges.Nodup := by
  rw [allEdges, List.nodup_flatMap]
  refine ⟨fun node _ => PortGraph.nodup_filterMap_edge? _ (agrees.graph.nodup_flatten_portsOf node .outgoing), ?_⟩
  refine agrees.nodup_order.imp fun {first second} apart edge inFirst inSecond => apart ?_
  obtain ⟨link, -, isFirst, same⟩ := agrees.graph.mem_edgesOf.1 inFirst
  obtain ⟨other, -, isSecond, same'⟩ := agrees.graph.mem_edgesOf.1 inSecond
  rw [← isFirst, ← isSecond]
  exact congrArg (fun edge : Edge => edge.source.node) (same.symm.trans same')

/-- The edges of an input, out of all edges. -/
theorem AgreesOn.filter_target_perm (agrees : program.AgreesOn kids) (node : Node) (offset : Int) :
    (program.allEdges.filter fun edge => edge.target = node.inputPort offset).Perm
      (program.graph.edgesAt (node.inputPort offset)) := by
  have distinct : (program.graph.edgesAt (node.inputPort offset)).Nodup :=
    PortGraph.nodup_filterMap_edge? _ (agrees.graph.distinct _)
  rw [List.perm_ext_iff_of_nodup (agrees.nodup_allEdges.filter _) distinct]
  intro edge
  rw [List.mem_filter, decide_eq_true_iff, agrees.mem_allEdges, agrees.graph.mem_edgesAt]
  constructor
  · rintro ⟨⟨link, found, same⟩, atPort⟩
    rw [same] at atPort
    exact ⟨link, found, atPort, same⟩
  · rintro ⟨link, found, atPort, same⟩
    refine ⟨⟨link, found, same⟩, ?_⟩
    rw [same]
    exact atPort

/-- The decoded program mirrors the one that was encoded, if its operations are the same. -/
theorem Built.mirrors (agrees : program.AgreesOn kids)
    (built : Built program target docs program.order program.allEdges copy)
    (same : ∀ node op, program.ops.get? node = some op → target node = op) : Mirrors program.place program copy := by
  have atPort : ∀ {node}, program.graph.contains node = true → ∀ direction offset,
      (copy.graph.edgesAt ⟨program.place node, direction, offset⟩).map (Edge.shape id) =
        (program.allEdges.filter fun edge => edge.port direction = ⟨node, direction, offset⟩).map
          (Edge.shape program.place) := by
    intro node live direction offset
    rw [built.edges]
    congr 1
    apply List.filter_congr
    intro edge mem
    obtain ⟨-, -, liveEnd⟩ := agrees.ends_of_mem_allEdges mem direction
    rw [decide_eq_decide, Port.rename, Port.mk.injEq, agrees.place_inj liveEnd live]
    cases edge.port direction
    simp
  constructor
  case injective => exact fun first second liveFirst liveSecond => (agrees.place_inj liveFirst liveSecond).1
  case live_iff => exact built.live_iff
  case root => exact built.root
  case ops =>
    intro node op found
    rw [built.ops node (agrees.contains_of_get? found), same node op found]
  case children =>
    intro node live
    rw [built.agrees.stores.children_eq, agrees.placedKids_order live, agrees.stores.children_eq]
  case outgoing =>
    intro node live offset
    rw [Node.outputPort, atPort live, ← Node.outputPort, ← agrees.filter_source]
    rfl
  case incoming =>
    intro node live offset
    rw [Node.inputPort, atPort live]
    exact (agrees.filter_target_perm node offset).map _

end NestedFlow.Program
