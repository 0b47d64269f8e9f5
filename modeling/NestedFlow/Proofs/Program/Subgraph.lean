import NestedFlow.Extension.Standard
import NestedFlow.Proofs.Program.Crossing

/-! Subgraphs of siblings: which sets of nodes have one, and what lies on its boundary.

As every edge joins ports of its own kind, a port crosses because of an edge of the kind that the port has. A value
input takes a single edge, so that one that crosses is not fed from inside as well.
-/

set_option autoImplicit false

namespace NestedFlow.Program

variable {program : Program} {kids : Node → List Node} {nodes : List Node} {subgraph : Subgraph}

/-! ### Edges that cross -/

namespace AgreesOn

/-- The ports that cross are the ends inside of edges that cross and are not static. -/
theorem mem_crossing_iff_edge (agrees : program.AgreesOn kids) (wired : program.Wired) {direction : Direction}
    {port : Port} :
    port ∈ nodes.flatMap (program.crossingPorts nodes direction) ↔ port.node ∈ nodes ∧
      ∃ edge ∈ program.graph.allEdges, edge.kind ≠ .static ∧ edge.port direction = port ∧
        (edge.port direction.reverse).node ∉ nodes := by
  rw [agrees.mem_flatMap_crossingPorts, LinkedOutside]
  apply and_congr_right
  intro _
  constructor
  · rintro ⟨rfl, ⟨edge, mem, atPort, outside⟩, moving⟩
    obtain ⟨kind, isKind, ends⟩ := wired.ends mem
    refine ⟨edge, mem, fun static => moving ?_, atPort, outside⟩
    rw [← atPort, ends, Option.map_some, isKind, static]
  · rintro ⟨edge, mem, moving, rfl, outside⟩
    obtain ⟨kind, isKind, ends⟩ := wired.ends mem
    rw [PortGraph.direction_port mem, ends, Option.map_some, isKind, ne_eq, Option.some.injEq]
    exact ⟨rfl, ⟨edge, mem, rfl, outside⟩, moving⟩

theorem isValuePort_port_iff (agrees : program.AgreesOn kids) (wired : program.Wired) {edge : Edge}
    (mem : edge ∈ program.graph.allEdges) (direction : Direction) :
    program.IsValuePort (edge.port direction) ↔ edge.kind = .value := by
  obtain ⟨kind, isKind, ends⟩ := wired.ends mem
  rw [agrees.isValuePort_iff, ends, ← isKind]
  constructor
  · rintro ⟨ty, same⟩
    rw [Option.some.inj same]
  · intro value
    obtain ⟨op, -, known⟩ := kindAt?_eq_some_iff.1 (ends direction)
    obtain ⟨ty, same⟩ := Op.exists_type_of_value known value
    exact ⟨ty, congrArg some same⟩

/-- Control flow leads from blocks to blocks and exits. -/
theorem exists_opTag_of_controlFlow (agrees : program.AgreesOn kids) (wired : program.Wired) {edge : Edge}
    (mem : edge ∈ program.graph.allEdges) (control : edge.kind = .controlFlow) (direction : Direction) :
    ∃ op, program.op (edge.port direction).node = .ok op ∧ (op.opTag = .block ∨ op.opTag = .exit) := by
  obtain ⟨kind, isKind, ends⟩ := wired.ends mem
  obtain ⟨op, found, known⟩ := kindAt?_eq_some_iff.1 (ends direction)
  exact ⟨op, agrees.op_eq_ok_iff.2 found, Op.opTag_of_controlFlow known (isKind.trans control)⟩

/-- No port that crosses is for ordering exactly if no order edge crosses. -/
theorem checkNoOrder_crossing_iff (agrees : program.AgreesOn kids) (wired : program.Wired)
    (live : ∀ node ∈ nodes, program.graph.contains node = true) :
    (∀ port ∈ (program.cutOut nodes).inputs.flatten ++ (program.cutOut nodes).outputs,
      program.checkNoOrder port = .ok ()) ↔
      ∀ edge ∈ program.graph.allEdges, edge.kind = .order → (edge.source.node ∈ nodes ↔ edge.target.node ∈ nodes) := by
  have side : ∀ direction, (∀ port ∈ nodes.flatMap (program.crossingPorts nodes direction),
      program.checkNoOrder port = .ok ()) ↔ ∀ edge ∈ program.graph.allEdges, edge.kind = .order →
        (edge.port direction).node ∈ nodes → (edge.port direction.reverse).node ∈ nodes := by
    intro direction
    constructor
    · intro clean edge mem order inside
      by_contra outside
      have crosses := (agrees.mem_crossing_iff_edge wired).2 ⟨inside, edge, mem, by simp [order], rfl, outside⟩
      obtain ⟨kind, isKind, ends⟩ := wired.ends mem
      refine (agrees.checkNoOrder_eq_ok_iff (live _ inside)).1 (clean _ crosses) ?_
      rw [ends, Option.map_some, isKind, order]
    · intro unordered port crosses
      obtain ⟨inside, edge, mem, -, rfl, outside⟩ := (agrees.mem_crossing_iff_edge wired).1 crosses
      obtain ⟨kind, isKind, ends⟩ := wired.ends mem
      rw [agrees.checkNoOrder_eq_ok_iff (live _ inside), ends, Option.map_some, isKind, ne_eq, Option.some.injEq]
      exact fun order => outside (unordered edge mem order inside)
  rw [flatten_inputs_cutOut, outputs_cutOut, List.forall_mem_append, side, side]
  constructor
  · rintro ⟨entering, leaving⟩ edge mem order
    exact ⟨leaving edge mem order, entering edge mem order⟩
  · intro unordered
    exact ⟨fun edge mem order => (unordered edge mem order).2, fun edge mem order => (unordered edge mem order).1⟩

/-- What crosses on the side of the inputs passes as a boundary if it is made of value ports. -/
theorem checkGroup_crossing_iff (agrees : program.AgreesOn kids) (wired : program.Wired) {port : Port}
    (crosses : port ∈ nodes.flatMap (program.crossingPorts nodes .incoming)) :
    program.checkGroup nodes [port] = .ok () ↔ program.IsValuePort port := by
  obtain ⟨inside, edge, mem, -, rfl, outside⟩ := (agrees.mem_crossing_iff_edge wired).1 crosses
  have side := PortGraph.direction_port mem .incoming
  have listed : edge ∈ program.graph.edgesAt (edge.port .incoming) :=
    agrees.graph.mem_edgesAt_iff.2 ⟨mem, by rw [side]⟩
  obtain ⟨kind, isKind, ends⟩ := wired.ends mem
  rw [checkGroup_single_iff, and_iff_right_of_imp]
  intro value
  rw [agrees.checkIncoming_eq_ok_iff (agrees.hasPort_of_kindAt? (ends .incoming))]
  refine ⟨side, inside, fun other isOther => ?_⟩
  -- a value input has no other edge than the one from outside
  rw [agrees.isValuePort_port_iff wired mem] at value
  have needs : NeedsOne (edge.port .incoming).direction kind := by
    rw [side]
    exact needsOne_incoming (by rw [isKind, value]; rfl)
  rw [wired.edge_unique agrees.graph (ends .incoming) needs isOther listed, side]
  exact outside

/-- The nodes that have a subgraph, and which one it is. -/
theorem subgraphOf_eq_ok_iff (agrees : program.AgreesOn kids) (wired : program.Wired)
    (live : ∀ node ∈ nodes, program.graph.contains node = true) :
    program.subgraphOf nodes = .ok subgraph ↔ subgraph = program.cutOut nodes ∧ program.Separable nodes ∧
      (∀ port ∈ nodes.flatMap (program.crossingPorts nodes .incoming), program.IsValuePort port) ∧
      (nodes.flatMap (program.crossingPorts nodes .incoming)).Nodup := by
  have groups : (∀ group ∈ (program.cutOut nodes).inputs, program.checkGroup nodes group = .ok ()) ↔
      ∀ port ∈ nodes.flatMap (program.crossingPorts nodes .incoming), program.IsValuePort port := by
    rw [inputs_cutOut, List.forall_mem_map]
    exact forall₂_congr fun port crosses => agrees.checkGroup_crossing_iff wired crosses
  have outgoing : ∀ port ∈ (program.cutOut nodes).outputs, checkOutgoing nodes port = .ok () := by
    intro port crosses
    obtain ⟨inside, side, -⟩ := agrees.mem_flatMap_crossingPorts.1 crosses
    exact checkOutgoing_eq_ok_iff.2 ⟨side, inside⟩
  rw [agrees.subgraphOf_eq live, checkedSubgraph_eq_ok_iff, checkBoundary_eq_ok_iff,
    agrees.checkNoOrder_crossing_iff wired live, flatten_inputs_cutOut, nodes_cutOut, groups,
    agrees.checkSiblings_eq_ok_iff live]
  apply and_congr_right
  intro _
  constructor
  · rintro ⟨⟨⟨nonempty, region, within⟩, unordered, values, unique, -⟩, convex⟩
    exact ⟨⟨nonempty, ⟨region, within, (agrees.checkConvex_eq_ok_iff nonempty within).1 convex⟩, unordered⟩, values,
      unique⟩
  · rintro ⟨⟨nonempty, ⟨region, within, convex⟩, unordered⟩, values, unique⟩
    exact ⟨⟨⟨nonempty, region, within⟩, unordered, values, unique, outgoing⟩,
      (agrees.checkConvex_eq_ok_iff nonempty within).2 convex⟩

/-- An edge that crosses and is not for ordering, nor static or control flow, joins value ports. -/
theorem isValuePort_of_crossing (agrees : program.AgreesOn kids) (wired : program.Wired)
    (separable : program.Separable nodes) {direction : Direction}
    (uncontrolled : ∀ edge ∈ program.graph.allEdges, edge.kind = .controlFlow → (edge.port direction).node ∈ nodes →
      (edge.port direction.reverse).node ∈ nodes) {port : Port}
    (crosses : port ∈ nodes.flatMap (program.crossingPorts nodes direction)) : program.IsValuePort port := by
  obtain ⟨inside, edge, mem, moving, rfl, outside⟩ := (agrees.mem_crossing_iff_edge wired).1 crosses
  rw [agrees.isValuePort_port_iff wired mem]
  cases kind : edge.kind with
  | value => rfl
  | order =>
    have ends := separable.unordered edge mem kind
    cases direction with
    | incoming => exact absurd (ends.2 inside) outside
    | outgoing => exact absurd (ends.1 inside) outside
  | static => exact absurd kind moving
  | controlFlow => exact absurd (uncontrolled edge mem kind inside) outside

theorem mem_crossing_iff_of_values (agrees : program.AgreesOn kids) {direction : Direction}
    (values : ∀ port ∈ nodes.flatMap (program.crossingPorts nodes direction), program.IsValuePort port) {port : Port} :
    port ∈ nodes.flatMap (program.crossingPorts nodes direction) ↔ port.node ∈ nodes ∧ port.direction = direction ∧
      program.IsValuePort port ∧ program.LinkedOutside nodes port := by
  constructor
  · intro crosses
    obtain ⟨inside, side, linked, -⟩ := agrees.mem_flatMap_crossingPorts.1 crosses
    exact ⟨inside, side, values port crosses, linked⟩
  · rintro ⟨inside, side, value, linked⟩
    obtain ⟨ty, known⟩ := agrees.isValuePort_iff.1 value
    exact agrees.mem_flatMap_crossingPorts.2 ⟨inside, side, linked, by simp [known]⟩

end AgreesOn

/-! ### The order of the boundary -/

/-- The node of one port comes first, or it is the same one and the offset is smaller. -/
def Before (nodes : List Node) (first second : Port) : Prop :=
  nodes.idxOf first.node < nodes.idxOf second.node ∨ first.node = second.node ∧ first.offset < second.offset

theorem Before.ne {first second : Port} (before : Before nodes first second) : first ≠ second := by
  rintro rfl
  rcases before with earlier | ⟨-, earlier⟩ <;> omega

theorem pairwise_crossing (program : Program) (distinct : nodes.Nodup) (direction : Direction) :
    (nodes.flatMap (program.crossingPorts nodes direction)).Pairwise (Before nodes) := by
  have atNode : ∀ {node : Node} {port : Port}, port ∈ program.crossingPorts nodes direction node → port.node = node :=
    fun mem => (mem_portList.1 (List.mem_of_mem_filter mem)).1
  rw [List.pairwise_flatMap]
  constructor
  · intro node _
    refine List.Pairwise.filter _ (List.pairwise_map.2 (List.pairwise_lt_range.imp fun less => ?_))
    exact .inr ⟨rfl, Int.ofNat_lt.2 less⟩
  · rw [List.pairwise_iff_getElem]
    intro first second _ _ less port isFirst other isSecond
    refine .inl ?_
    rw [atNode isFirst, atNode isSecond, distinct.idxOf_getElem, distinct.idxOf_getElem]
    exact less

/-! ### Subgraphs of distinct nodes outside of control flow -/

/-- The boundary of a subgraph is made of the value ports that are linked outside, node by node and then offset by
offset, and every input port is an input of its own. -/
structure Bounds (program : Program) (nodes : List Node) (subgraph : Subgraph) : Prop where
  same_nodes : subgraph.nodes = nodes
  groups : subgraph.inputs = subgraph.inputs.flatten.map fun port => [port]
  inputs_iff : ∀ port, port ∈ subgraph.inputs.flatten ↔ port.node ∈ nodes ∧ port.direction = .incoming ∧
    program.IsValuePort port ∧ program.LinkedOutside nodes port
  outputs_iff : ∀ port, port ∈ subgraph.outputs ↔ port.node ∈ nodes ∧ port.direction = .outgoing ∧
    program.IsValuePort port ∧ program.LinkedOutside nodes port
  inputs_inOrder : subgraph.inputs.flatten.Pairwise (Before nodes)
  outputs_inOrder : subgraph.outputs.Pairwise (Before nodes)

/-- Distinct nodes that are no blocks or exits have a subgraph exactly if they are a convex set of siblings with no
order edge across its boundary, which is then made of the value ports that are linked outside. -/
theorem subgraphOf_iff_separable (assembled : Assembled program) (distinct : nodes.Nodup)
    (plain : ∀ node ∈ nodes, ∃ op, program.op node = .ok op ∧ op.opTag ≠ .block ∧ op.opTag ≠ .exit) :
    ((∃ subgraph, program.subgraphOf nodes = .ok subgraph) ↔ program.Separable nodes) ∧
      ∀ subgraph, program.subgraphOf nodes = .ok subgraph → program.Bounds nodes subgraph := by
  obtain ⟨consistent, wired⟩ := assembled.consistent_wired
  have agrees : program.AgreesOn program.hierarchy.children := consistent
  have live : ∀ node ∈ nodes, program.graph.contains node = true := by
    intro node mem
    obtain ⟨op, found, -⟩ := plain node mem
    exact agrees.contains_of_get? (agrees.op_eq_ok_iff.1 found)
  have uncontrolled : ∀ edge ∈ program.graph.allEdges, edge.kind = .controlFlow → ∀ direction,
      (edge.port direction).node ∉ nodes := by
    intro edge mem control direction inside
    obtain ⟨op, isOp, tag⟩ := agrees.exists_opTag_of_controlFlow wired mem control direction
    obtain ⟨other, found, noBlock, noExit⟩ := plain _ inside
    rw [isOp, Except.ok.injEq] at found
    subst found
    exact tag.elim noBlock noExit
  have values : program.Separable nodes → ∀ direction, ∀ port ∈ nodes.flatMap (program.crossingPorts nodes direction),
      program.IsValuePort port := fun separable direction port crosses =>
    agrees.isValuePort_of_crossing wired separable
      (fun edge mem control inside => absurd inside (uncontrolled edge mem control direction)) crosses
  have unique := fun direction => (pairwise_crossing program distinct direction).imp Before.ne
  constructor
  · constructor
    · rintro ⟨subgraph, built⟩
      exact ((agrees.subgraphOf_eq_ok_iff wired live).1 built).2.1
    · intro separable
      exact ⟨_, (agrees.subgraphOf_eq_ok_iff wired live).2
        ⟨rfl, separable, values separable .incoming, unique .incoming⟩⟩
  · intro subgraph built
    obtain ⟨rfl, separable, -⟩ := (agrees.subgraphOf_eq_ok_iff wired live).1 built
    constructor
    · rfl
    · rw [flatten_inputs_cutOut, inputs_cutOut]
    · rw [flatten_inputs_cutOut]
      exact fun port => agrees.mem_crossing_iff_of_values (values separable .incoming)
    · exact fun port => agrees.mem_crossing_iff_of_values (values separable .outgoing)
    · rw [flatten_inputs_cutOut]
      exact pairwise_crossing program distinct .incoming
    · exact pairwise_crossing program distinct .outgoing

/-- A number that passes through three nodes in a row. -/
def noopChain : Program :=
  (ofRoot (.dfg [Standard.usize] [Standard.usize] none)).edited [
    .addChild ⟨0, 0⟩ (.input [Standard.usize]),
    .addChild ⟨0, 0⟩ (.output [Standard.usize]),
    .addChild ⟨0, 0⟩ (.noop Standard.usize),
    .addChild ⟨0, 0⟩ (.noop Standard.usize),
    .addChild ⟨0, 0⟩ (.noop Standard.usize),
    .connect ⟨1, 0⟩ 0 ⟨3, 0⟩ 0,
    .connect ⟨3, 0⟩ 0 ⟨4, 0⟩ 0,
    .connect ⟨4, 0⟩ 0 ⟨5, 0⟩ 0,
    .connect ⟨5, 0⟩ 0 ⟨2, 0⟩ 0]

/-- Two neighbours in the row are separable, the first and the last are not: the path between them comes back. -/
theorem subgraphOf_iff_separable_noopChain :
    noopChain.Separable [⟨4, 0⟩, ⟨3, 0⟩] ∧ ¬ noopChain.Separable [⟨3, 0⟩, ⟨5, 0⟩] ∧
      noopChain.Bounds [⟨4, 0⟩, ⟨3, 0⟩] ⟨[⟨4, 0⟩, ⟨3, 0⟩], [[⟨⟨3, 0⟩, .incoming, 0⟩]], [⟨⟨4, 0⟩, .outgoing, 0⟩]⟩ := by
  have assembled : Assembled noopChain := (Assembled.ofRoot _).edits (by decide)
  have noop : ∀ node ∈ [⟨3, 0⟩, ⟨4, 0⟩, ⟨5, 0⟩], noopChain.op node = .ok (.noop Standard.usize) := by
    simp only [List.forall_mem_cons]
    refine ⟨?_, ?_, ?_, fun node mem => nomatch mem⟩ <;> with_unfolding_all rfl
  have plain : ∀ nodes : List Node, nodes ⊆ [⟨3, 0⟩, ⟨4, 0⟩, ⟨5, 0⟩] →
      ∀ node ∈ nodes, ∃ op, noopChain.op node = .ok op ∧ op.opTag ≠ .block ∧ op.opTag ≠ .exit :=
    fun nodes among node mem => ⟨_, noop node (among mem), by decide, by decide⟩
  have neighbours := subgraphOf_iff_separable assembled (by decide) (plain [⟨4, 0⟩, ⟨3, 0⟩] (by decide))
  have apart := subgraphOf_iff_separable assembled (by decide) (plain [⟨3, 0⟩, ⟨5, 0⟩] (by decide))
  have built : noopChain.subgraphOf [⟨4, 0⟩, ⟨3, 0⟩] =
      .ok ⟨[⟨4, 0⟩, ⟨3, 0⟩], [[⟨⟨3, 0⟩, .incoming, 0⟩]], [⟨⟨4, 0⟩, .outgoing, 0⟩]⟩ := by
    with_unfolding_all rfl
  have refused : noopChain.subgraphOf [⟨3, 0⟩, ⟨5, 0⟩] = failAt ⟨3, 0⟩ (.boundary .notConvex) := by
    with_unfolding_all rfl
  refine ⟨neighbours.1.1 ⟨_, built⟩, fun separable => ?_, neighbours.2 _ built⟩
  obtain ⟨subgraph, found⟩ := apart.1.2 separable
  rw [refused] at found
  cases found

/-! ### Subgraphs of any nodes -/

/-- A subgraph lists nothing twice, its boundary is made of value ports, and its signature has a type for every input
and output. -/
structure Usable (program : Program) (subgraph : Subgraph) : Prop where
  nodes : subgraph.nodes.Nodup
  inputs : subgraph.inputs.flatten.Nodup
  outputs : subgraph.outputs.Nodup
  values : ∀ port ∈ subgraph.inputs.flatten ++ subgraph.outputs, program.IsValuePort port
  signature : ∃ signature, program.subgraphSignature subgraph = .ok signature ∧
    signature.input.length = subgraph.inputs.length ∧ signature.output.length = subgraph.outputs.length

/-- Value ports have types, of which a signature can be made. -/
theorem exists_signature (nonempty : ∀ group ∈ subgraph.inputs, group ≠ [])
    (values : ∀ port ∈ subgraph.inputs.flatten ++ subgraph.outputs, program.IsValuePort port) :
    ∃ signature, program.subgraphSignature subgraph = .ok signature ∧
      signature.input.length = subgraph.inputs.length ∧ signature.output.length = subgraph.outputs.length := by
  rw [List.forall_mem_append] at values
  have typed : ∀ {port}, program.IsValuePort port → ∃ ty, program.valueType port = .ok ty :=
    fun ⟨ty, kind⟩ => ⟨ty, AgreesOn.valueType_eq_ok_iff.2 kind⟩
  have grouped : ∀ group ∈ subgraph.inputs, ∃ ty,
      (require group.head? .position >>= fun port => program.valueType port) = .ok ty := by
    intro group mem
    cases group with
    | nil => exact absurd rfl (nonempty [] mem)
    | cons port rest => exact typed (values.1 port (List.mem_flatten_of_mem mem List.mem_cons_self))
  obtain ⟨inputs, first⟩ := Outcome.exists_mapM grouped
  obtain ⟨outputs, second⟩ := Outcome.exists_mapM fun port mem => typed (values.2 port mem)
  refine ⟨.ofRows inputs outputs, ?_, ?_, ?_⟩
  · rw [subgraphSignature, first, Outcome.ok_bind, second]
    rfl
  · simpa [Signature.ofRows] using (congrArg List.length (Outcome.mapM_eq_ok_iff.1 first)).symm
  · simpa [Signature.ofRows] using (congrArg List.length (Outcome.mapM_eq_ok_iff.1 second)).symm

/-- The inputs of a subgraph that is built are distinct value ports. Its outputs are so as well, and it is usable,
exactly if no node was given twice and no control flow leaves the nodes. -/
theorem usable_iff_distinct_uncontrolled (assembled : Assembled program)
    (live : ∀ node ∈ nodes, program.contains node = true) (built : program.subgraphOf nodes = .ok subgraph) :
    subgraph.nodes = nodes ∧ subgraph.inputs.flatten.Nodup ∧
      (∀ port ∈ subgraph.inputs.flatten, program.IsValuePort port) ∧
      (program.Usable subgraph ↔ nodes.Nodup ∧ ∀ edge ∈ program.graph.allEdges, edge.kind = .controlFlow →
        edge.source.node ∈ nodes → edge.target.node ∈ nodes) := by
  obtain ⟨consistent, wired⟩ := assembled.consistent_wired
  have agrees : program.AgreesOn program.hierarchy.children := consistent
  obtain ⟨rfl, separable, values, unique⟩ := (agrees.subgraphOf_eq_ok_iff wired fun node mem =>
    (Bool.and_eq_true_iff.1 (live node mem)).2).1 built
  rw [flatten_inputs_cutOut]
  refine ⟨rfl, unique, values, fun usable => ⟨usable.nodes, fun edge mem control inside => ?_⟩, ?_⟩
  · -- the port of a control flow edge that leaves would be an output
    by_contra outside
    have crosses : edge.port .outgoing ∈ nodes.flatMap (program.crossingPorts nodes .outgoing) :=
      (agrees.mem_crossing_iff_edge wired).2 ⟨inside, edge, mem, by simp [control], rfl, outside⟩
    have value := (agrees.isValuePort_port_iff wired mem .outgoing).1 (usable.values _ (List.mem_append_right _ crosses))
    rw [control] at value
    cases value
  · rintro ⟨distinct, uncontrolled⟩
    have boundary : ∀ port ∈ (program.cutOut nodes).inputs.flatten ++ (program.cutOut nodes).outputs,
        program.IsValuePort port := by
      rw [flatten_inputs_cutOut, List.forall_mem_append]
      exact ⟨values, fun port crosses =>
        @AgreesOn.isValuePort_of_crossing _ _ _ agrees wired separable .outgoing uncontrolled port crosses⟩
    constructor
    · exact distinct
    · rw [flatten_inputs_cutOut]
      exact unique
    · exact (pairwise_crossing program distinct .outgoing).imp Before.ne
    · exact boundary
    · refine exists_signature (fun group mem => ?_) boundary
      obtain ⟨port, -, rfl⟩ := List.mem_map.1 mem
      exact List.cons_ne_nil port []

/-- All of the row makes a usable subgraph. Its input node given twice makes one that is not. -/
theorem usable_iff_distinct_uncontrolled_noopChain :
    noopChain.Usable ⟨[⟨3, 0⟩, ⟨4, 0⟩, ⟨5, 0⟩], [[⟨⟨3, 0⟩, .incoming, 0⟩]], [⟨⟨5, 0⟩, .outgoing, 0⟩]⟩ ∧
      ¬ noopChain.Usable ⟨[⟨1, 0⟩, ⟨1, 0⟩], [], [⟨⟨1, 0⟩, .outgoing, 0⟩, ⟨⟨1, 0⟩, .outgoing, 0⟩]⟩ := by
  have assembled : Assembled noopChain := (Assembled.ofRoot _).edits (by decide)
  obtain ⟨-, -, -, usable⟩ := @usable_iff_distinct_uncontrolled _ [⟨3, 0⟩, ⟨4, 0⟩, ⟨5, 0⟩] _ assembled
    (by decide +kernel) (by with_unfolding_all rfl)
  obtain ⟨-, -, -, repeated⟩ := @usable_iff_distinct_uncontrolled _ [⟨1, 0⟩, ⟨1, 0⟩] _ assembled
    (by decide +kernel) (by with_unfolding_all rfl)
  exact ⟨usable.2 ⟨by decide, by decide +kernel⟩, fun held => absurd (repeated.1 held).1 (by decide)⟩

/-- A block that hands over control to the exit. -/
def leavingBlock : Program :=
  (ofRoot (.cfg [] [] none)).edited [
    .addChild ⟨0, 0⟩ (.block [] [[]] [] none),
    .addChild ⟨0, 0⟩ (.exit []),
    .connect ⟨1, 0⟩ 0 ⟨2, 0⟩ 0]

/-- A subgraph of live nodes that is built, and is not usable. -/
def IsSpurious (program : Program) (subgraph : Subgraph) : Prop :=
  Assembled program ∧ (∀ node ∈ subgraph.nodes, program.contains node = true) ∧
    program.subgraphOf subgraph.nodes = .ok subgraph ∧ ¬ program.Usable subgraph

/-- On the side of the outputs neither the kinds of the ports nor repetitions are looked at. -/
theorem spurious_outputs :
    leavingBlock.IsSpurious ⟨[⟨1, 0⟩], [], [⟨⟨1, 0⟩, .outgoing, 0⟩]⟩ ∧
      noopChain.IsSpurious ⟨[⟨1, 0⟩, ⟨1, 0⟩], [], [⟨⟨1, 0⟩, .outgoing, 0⟩, ⟨⟨1, 0⟩, .outgoing, 0⟩]⟩ := by
  refine ⟨⟨(Assembled.ofRoot _).edits (by decide), by decide +kernel, by with_unfolding_all rfl, fun usable => ?_⟩,
    ⟨(Assembled.ofRoot _).edits (by decide), by decide +kernel, by with_unfolding_all rfl, fun usable => ?_⟩⟩
  · obtain ⟨signature, typed, -⟩ := usable.signature
    have refused : leavingBlock.subgraphSignature ⟨[⟨1, 0⟩], [], [⟨⟨1, 0⟩, .outgoing, 0⟩]⟩ =
        failAt ⟨1, 0⟩ (.boundary (.notValuePort ⟨⟨1, 0⟩, .outgoing, 0⟩)) := by with_unfolding_all rfl
    rw [refused] at typed
    cases typed
  · exact absurd usable.outputs (by decide)

end NestedFlow.Program
