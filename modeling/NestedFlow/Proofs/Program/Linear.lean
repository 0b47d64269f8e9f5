import NestedFlow.Extension.Standard
import NestedFlow.Proofs.Program.Accepted

/-! Linear values are neither lost nor duplicated in accepted programs. -/

set_option autoImplicit false

namespace NestedFlow.Program

open Hierarchy Report

/-- The value ports of a type at a node, on one side. -/
def valuePortsOf (program : Program) (direction : Direction) (ty : Ty) (node : Node) : List Port :=
  match program.ops.get? node with
  | none => []
  | some op =>
    let offsets := (List.range (op.portCount direction)).filter fun (offset : Nat) =>
      decide (op.portKind? direction offset = some ⟨.value, some (.value ty)⟩)
    offsets.map fun (offset : Nat) => ⟨node, direction, offset⟩

/-- The value ports of a type at the children of a node, on one side. -/
def valuePorts (program : Program) (parent : Node) (direction : Direction) (ty : Ty) : List Port :=
  (program.hierarchy.children parent).flatMap (program.valuePortsOf direction ty)

/-- Among the children of a node, value edges pair the outputs of a type with its inputs. -/
structure Paired (program : Program) (parent : Node) (ty : Ty) : Prop where
  outputs : ∀ source ∈ program.valuePorts parent .outgoing ty, ∃ edge, program.portEdges source = .ok [edge] ∧
    edge.kind = .value ∧ edge.source = source ∧ edge.target ∈ program.valuePorts parent .incoming ty
  inputs : ∀ target ∈ program.valuePorts parent .incoming ty, ∃ edge, program.portEdges target = .ok [edge] ∧
    edge.kind = .value ∧ edge.target = target ∧ edge.source ∈ program.valuePorts parent .outgoing ty
  /-- What the outputs are linked to are the inputs, each of them once. -/
  correspondence : ∃ targets : List Port, (program.valuePorts parent .outgoing ty).mapM program.linkedPorts =
    .ok (targets.map fun target => [target]) ∧ targets.Perm (program.valuePorts parent .incoming ty)
  sameSize : (program.valuePorts parent .outgoing ty).length = (program.valuePorts parent .incoming ty).length

namespace AgreesOn

variable {program : Program} {kids : Node → List Node}

omit kids in
theorem mem_valuePortsOf {node : Node} {direction : Direction} {ty : Ty} {port : Port} :
    port ∈ program.valuePortsOf direction ty node ↔ port.node = node ∧ port.direction = direction ∧
      ∃ op, program.ops.get? port.node = some op ∧
        op.portKind? direction port.offset = some ⟨.value, some (.value ty)⟩ := by
  rw [valuePortsOf]
  constructor
  · intro mem
    cases found : program.ops.get? node with
    | none =>
      rw [found] at mem
      cases mem
    | some op =>
      simp only [found, List.mem_map, List.mem_filter, decide_eq_true_eq] at mem
      obtain ⟨offset, ⟨-, known⟩, rfl⟩ := mem
      exact ⟨rfl, rfl, op, found, known⟩
  · rintro ⟨rfl, rfl, op, found, known⟩
    obtain ⟨lower, upper⟩ := Op.portKind?_inside known
    have position : ((port.offset.toNat : Nat) : Int) = port.offset := Int.toNat_of_nonneg lower
    simp only [found, List.mem_map, List.mem_filter, decide_eq_true_eq]
    refine ⟨port.offset.toNat, ⟨List.mem_range.2 (by omega), ?_⟩, ?_⟩
    · rw [position, known]
    · rw [position]

theorem mem_valuePorts (agrees : program.AgreesOn kids) {parent : Node} {direction : Direction} {ty : Ty}
    {port : Port} :
    port ∈ program.valuePorts parent direction ty ↔ port.node ∈ kids parent ∧ port.direction = direction ∧
      ∃ op, program.ops.get? port.node = some op ∧
        op.portKind? direction port.offset = some ⟨.value, some (.value ty)⟩ := by
  rw [valuePorts, agrees.stores.children_eq, List.mem_flatMap]
  simp only [mem_valuePortsOf]
  constructor
  · rintro ⟨child, isChild, rfl, further⟩
    exact ⟨isChild, further⟩
  · rintro ⟨isChild, further⟩
    exact ⟨port.node, isChild, rfl, further⟩

theorem nodup_valuePorts (agrees : program.AgreesOn kids) (parent : Node) (direction : Direction) (ty : Ty) :
    (program.valuePorts parent direction ty).Nodup := by
  rw [valuePorts, agrees.stores.children_eq, List.nodup_flatMap]
  constructor
  · intro child _
    rw [valuePortsOf]
    cases program.ops.get? child with
    | none => exact List.nodup_nil
    | some op =>
      refine (List.nodup_range.filter _).map fun first second same => ?_
      rw [Port.mk.injEq] at same
      omega
  · apply (agrees.stores.distinct parent).imp
    intro first second apart port inFirst inSecond
    exact apart ((mem_valuePortsOf.1 inFirst).1.symm.trans (mem_valuePortsOf.1 inSecond).1)

/-- The only edge at a port that needs one, as a recorded link. -/
theorem single_edge (agrees : program.AgreesOn kids) {port : Port}
    (single : (program.graph.idsAt port).length = 1) :
    ∃ (id : Nat) (link : Link), program.graph.idsAt port = [id] ∧ program.graph.links.get? id = some link ∧
      link.port port.direction = port ∧ program.portEdges port = .ok [link.edge id] := by
  obtain ⟨id, only⟩ := List.length_eq_one_iff.1 single
  have listed : id ∈ program.graph.idsAt port := by
    rw [only]
    exact List.mem_cons_self
  obtain ⟨link, found, atPort⟩ := (agrees.graph.listed_iff id port).1 listed
  refine ⟨id, link, only, found, atPort, ?_⟩
  have edge : program.graph.edge? id = some (link.edge id) := by
    rw [PortGraph.edge?, found, Option.map_some]
  rw [agrees.portEdges_eq (PortGraph.hasPort_of_mem_idsAt listed), PortGraph.edgesAt, only,
    List.filterMap_cons_some edge, List.filterMap_nil]

end AgreesOn

/-- An edge that carries values of a type between two children of a node, and has its ports to itself. -/
structure Wire (program : Program) (parent : Node) (ty : Ty) (id : Nat) (link : Link) : Prop where
  recorded : program.graph.links.get? id = some link
  kind : link.kind = .value
  ports : ∀ direction, link.port direction ∈ program.valuePorts parent direction ty
  alone : ∀ direction, program.graph.idsAt (link.port direction) = [id]

namespace AgreesOn

variable {program : Program} {kids : Node → List Node}

/-- A value port of a linear type at a child of a node has a single edge. -/
theorem length_idsAt_of_linear (agrees : program.AgreesOn kids) {registry : Registry} {requirements : Bool}
    (accepted : (program.validate registry requirements).Empty) {parent : Node} {ty : Ty}
    (linear : ty.isLinear = true) {direction : Direction} {port : Port}
    (mem : port ∈ program.valuePorts parent direction ty) : (program.graph.idsAt port).length = 1 := by
  obtain ⟨isChild, rfl, op, found, known⟩ := agrees.mem_valuePorts.1 mem
  exact agrees.length_idsAt_of_accepted accepted isChild (kindAt?_eq_some_iff.2 ⟨op, found, known⟩)
    ⟨rfl, fun _ => ⟨rfl, linear⟩⟩

/-- The edge at a value port of a linear type is a wire between siblings. -/
theorem exists_wire (agrees : program.AgreesOn kids) {registry : Registry} {requirements : Bool}
    (accepted : (program.validate registry requirements).Empty) {parent : Node} {ty : Ty}
    (linear : ty.isLinear = true) {direction : Direction} {port : Port}
    (mem : port ∈ program.valuePorts parent direction ty) :
    ∃ id link, program.Wire parent ty id link ∧ link.port direction = port := by
  obtain ⟨isChild, rfl, op, found, known⟩ := agrees.mem_valuePorts.1 mem
  obtain ⟨id, link, -, recorded, atPort, -⟩ := agrees.single_edge (agrees.length_idsAt_of_linear accepted linear mem)
  have listed : link.edge id ∈ program.graph.edgesAt port := agrees.graph.mem_edgesAt.2 ⟨link, recorded, atPort, rfl⟩
  obtain ⟨kind, nearby, carried⟩ :=
    agrees.carried_of_accepted accepted (kindAt?_eq_some_iff.2 ⟨op, found, known⟩) listed
  obtain ⟨region, siblings⟩ := nearby.siblings kind linear
  simp only [Link.port_edge, kindAt?_eq_some_iff] at siblings carried
  have ports : ∀ direction, link.port direction ∈ program.valuePorts region direction ty :=
    fun direction => agrees.mem_valuePorts.2 ⟨siblings direction, rfl, carried direction⟩
  have same : region = parent := by
    apply agrees.stores.parent_unique _ isChild
    rw [← atPort]
    exact siblings port.direction
  refine ⟨id, link, ⟨recorded, kind, fun direction => same ▸ ports direction, fun direction => ?_⟩, atPort⟩
  obtain ⟨other, only⟩ := List.length_eq_one_iff.1 (agrees.length_idsAt_of_linear accepted linear (ports direction))
  have listed := agrees.graph.mem_idsAt recorded direction
  rw [only, List.mem_singleton] at listed
  rw [only, listed]

theorem edgesAt_of_wire (agrees : program.AgreesOn kids) {parent : Node} {ty : Ty} {id : Nat} {link : Link}
    (wire : program.Wire parent ty id link) (direction : Direction) :
    program.graph.HasPort (link.port direction) ∧ program.graph.edgesAt (link.port direction) = [link.edge id] := by
  have edge : program.graph.edge? id = some (link.edge id) := by
    rw [PortGraph.edge?, wire.recorded, Option.map_some]
  refine ⟨PortGraph.hasPort_of_mem_idsAt (agrees.graph.mem_idsAt wire.recorded direction), ?_⟩
  rw [PortGraph.edgesAt, wire.alone, List.filterMap_cons_some edge, List.filterMap_nil]

theorem portEdges_of_wire (agrees : program.AgreesOn kids) {parent : Node} {ty : Ty} {id : Nat} {link : Link}
    (wire : program.Wire parent ty id link) (direction : Direction) :
    program.portEdges (link.port direction) = .ok [link.edge id] := by
  obtain ⟨has, single⟩ := agrees.edgesAt_of_wire wire direction
  rw [agrees.portEdges_eq has, single]

theorem linkedPorts_of_wire (agrees : program.AgreesOn kids) {parent : Node} {ty : Ty} {id : Nat} {link : Link}
    (wire : program.Wire parent ty id link) :
    program.linkedPorts (link.port .outgoing) = .ok [link.port .incoming] := by
  obtain ⟨has, single⟩ := agrees.edgesAt_of_wire wire .outgoing
  rw [agrees.linkedPorts_eq has, single]
  rfl

/-- Wires at all ports of a type pair them. -/
theorem paired (agrees : program.AgreesOn kids) {parent : Node} {ty : Ty}
    (wires : ∀ direction, ∀ port ∈ program.valuePorts parent direction ty,
      ∃ id link, program.Wire parent ty id link ∧ link.port direction = port) : program.Paired parent ty := by
  have target : ∀ source ∈ program.valuePorts parent .outgoing ty, ∃ target,
      program.linkedPorts source = .ok [target] ∧
        ∃ id link, program.Wire parent ty id link ∧ link.port .outgoing = source ∧ link.port .incoming = target := by
    intro source mem
    obtain ⟨id, link, wire, rfl⟩ := wires .outgoing source mem
    exact ⟨link.port .incoming, agrees.linkedPorts_of_wire wire, id, link, wire, rfl, rfl⟩
  choose! partner linked wired using target
  -- the partners of the outputs are distinct, and every input is one of them
  have perm : ((program.valuePorts parent .outgoing ty).map partner).Perm (program.valuePorts parent .incoming ty) := by
    rw [List.perm_ext_iff_of_nodup _ (agrees.nodup_valuePorts parent .incoming ty)]
    · intro port
      rw [List.mem_map]
      constructor
      · rintro ⟨source, mem, rfl⟩
        obtain ⟨id, link, wire, -, same⟩ := wired source mem
        exact same ▸ wire.ports .incoming
      · intro mem
        obtain ⟨id, link, wire, rfl⟩ := wires .incoming port mem
        refine ⟨link.port .outgoing, wire.ports .outgoing, ?_⟩
        have answer := linked (link.port .outgoing) (wire.ports .outgoing)
        rw [agrees.linkedPorts_of_wire wire, Except.ok.injEq, List.cons.injEq] at answer
        exact answer.1.symm
    · rw [List.nodup_map_iff_inj_on (agrees.nodup_valuePorts parent .outgoing ty)]
      intro first inFirst second inSecond same
      obtain ⟨id, link, wire, isFirst, toFirst⟩ := wired first inFirst
      obtain ⟨other, found, further, isSecond, toSecond⟩ := wired second inSecond
      rw [← same, ← toFirst] at toSecond
      have ids := further.alone .incoming
      rw [toSecond, wire.alone, List.cons.injEq] at ids
      have recorded := further.recorded
      rw [← ids.1, wire.recorded, Option.some.injEq] at recorded
      rw [← isFirst, ← isSecond, recorded]
  refine ⟨?_, ?_, ⟨(program.valuePorts parent .outgoing ty).map partner, ?_, perm⟩, ?_⟩
  · intro source mem
    obtain ⟨id, link, wire, rfl⟩ := wires .outgoing source mem
    exact ⟨link.edge id, agrees.portEdges_of_wire wire .outgoing, wire.kind, rfl, wire.ports .incoming⟩
  · intro port mem
    obtain ⟨id, link, wire, rfl⟩ := wires .incoming port mem
    exact ⟨link.edge id, agrees.portEdges_of_wire wire .incoming, wire.kind, rfl, wire.ports .outgoing⟩
  · rw [Outcome.mapM_eq_ok_iff, List.map_map, List.map_map]
    exact List.map_congr_left linked
  · rw [← perm.length_eq, List.length_map]

end AgreesOn

/-- In an accepted program every linear value that a region produces is consumed there exactly once. -/
theorem linear_values_paired {program : Program} (reachable : Reachable program) {registry : Registry}
    (accepted : program.validate registry false = .ok []) (parent : Node) {ty : Ty} (linear : ty.isLinear = true) :
    program.Paired parent ty := by
  have agrees : program.AgreesOn program.hierarchy.children := reachable.consistent
  exact agrees.paired fun direction port mem => agrees.exists_wire accepted linear mem

/-- The region that passes on a qubit. -/
def qubitWire : Program :=
  (Edit.connect ⟨1, 0⟩ 0 ⟨2, 0⟩ 0).apply ((Edit.addChild ⟨0, 0⟩ (.output [Standard.qubit])).apply
    ((Edit.addChild ⟨0, 0⟩ (.input [Standard.qubit])).apply (ofRoot (.dfg [Standard.qubit] [Standard.qubit] none))))

theorem linear_values_paired_qubit :
    qubitWire.validate .prelude false = .ok [] ∧ qubitWire.valuePorts ⟨0, 0⟩ .outgoing Standard.qubit ≠ [] ∧
      qubitWire.Paired ⟨0, 0⟩ Standard.qubit := by
  have accepted : qubitWire.validate .prelude false = .ok [] := by decide +kernel
  have reachable : Reachable qubitWire := .edited (.edited (.edited (.ofRoot _) _) _) _
  exact ⟨accepted, by decide +kernel, linear_values_paired reachable accepted ⟨0, 0⟩ (by decide)⟩

end NestedFlow.Program
