import NestedFlow.Extension.Standard
import NestedFlow.Proofs.Program.Crossing

/-! Subgraphs of whole regions.

The boundary of the subgraph of a region is read off the input and the output of the region: its inputs are what the
input feeds, its outputs are what feeds the output. In an accepted program nothing else leads out of the nodes, but
copyable values from further outside may enter them past the input.
-/

set_option autoImplicit false

namespace NestedFlow

open Hierarchy

/-- Only dataflow regions admit an input. -/
theorem Op.exists_inner?_of_allowed {op : Op} (allowed : op.childRules.allowed.isSuperset .input = true) :
    op.childRules = .dataflow ∧ ∃ inner, op.inner? = some inner := by
  cases op <;> first | exact ⟨rfl, _, rfl⟩ | cases allowed

namespace Program

variable {program : Program} {kids : Node → List Node} {region : Node} {subgraph : Subgraph}

/-! ### What the subgraph is made of -/

/-- The subgraph lies between the input and the output of the region, and is bounded by what they are linked to. -/
structure Encloses (program : Program) (region input output : Node) (types others : Row) (subgraph : Subgraph) :
    Prop where
  children : program.children region = .ok (input :: output :: subgraph.nodes)
  atInput : program.op input = .ok (.input types)
  atOutput : program.op output = .ok (.output others)
  inputs : (List.range types.length).mapM (fun (offset : Nat) => program.linkedPorts (input.outputPort offset)) =
    .ok subgraph.inputs
  outputs : (List.range others.length).mapM (fun (offset : Nat) => program.feeder output offset) = .ok subgraph.outputs
  boundary : program.checkBoundary subgraph = .ok ()

theorem boundary?_eq_some {input output : Node} (found : program.boundary? region = .ok (some (input, output))) :
    ∃ types others rest, program.children region = .ok (input :: output :: rest) ∧
      program.ops.get? input = some (.input types) ∧ program.ops.get? output = some (.output others) := by
  obtain ⟨children, listed, found⟩ := Outcome.bind_eq_ok_iff.1 found
  match children with
  | [] | [_] => cases found
  | first :: second :: rest =>
    obtain ⟨op, isFirst, found⟩ := Outcome.bind_eq_ok_iff.1 found
    cases op with
    | input types =>
      obtain ⟨op, isSecond, found⟩ := Outcome.bind_eq_ok_iff.1 found
      cases op with
      | output others =>
        cases found
        exact ⟨types, others, rest, listed, entry_eq_ok_iff.1 isFirst, entry_eq_ok_iff.1 isSecond⟩
      | _ => cases found
    | _ => cases found

theorem exists_encloses (built : program.regionSubgraph region = .ok subgraph) :
    ∃ input output types others, program.Encloses region input output types others subgraph := by
  obtain ⟨found, isRegion, built⟩ := Outcome.bind_eq_ok_iff.1 built
  match found with
  | none => cases built
  | some (input, output) =>
    obtain ⟨types, others, rest, listed, isInput, isOutput⟩ := boundary?_eq_some isRegion
    obtain ⟨leaving, -, built⟩ := Outcome.bind_eq_ok_iff.1 built
    cases leaving with
    | true => cases built
    | false =>
      obtain ⟨entering, -, built⟩ := Outcome.bind_eq_ok_iff.1 built
      cases entering with
      | true => cases built
      | false =>
        simp only [Bool.false_eq_true, if_false, listed, Outcome.ok_bind] at built
        obtain ⟨first, atInput, built⟩ := Outcome.bind_eq_ok_iff.1 built
        obtain ⟨second, atOutput, built⟩ := Outcome.bind_eq_ok_iff.1 built
        obtain ⟨inputs, fed, built⟩ := Outcome.bind_eq_ok_iff.1 built
        obtain ⟨outputs, feeding, built⟩ := Outcome.bind_eq_ok_iff.1 built
        obtain ⟨rfl, boundary, -⟩ := AgreesOn.checkedSubgraph_eq_ok_iff.1 built
        obtain rfl : first = .input types := Option.some.inj ((op_eq_ok atInput).symm.trans isInput)
        obtain rfl : second = .output others := Option.some.inj ((op_eq_ok atOutput).symm.trans isOutput)
        exact ⟨input, output, types, others, listed, atInput, atOutput, fed, feeding, boundary⟩

theorem linkedPorts_of_feeder {output : Node} {offset : Nat} {port : Port}
    (found : program.feeder output offset = .ok port) : program.linkedPorts (output.inputPort offset) = .ok [port] := by
  obtain ⟨linked, asked, found⟩ := Outcome.bind_eq_ok_iff.1 found
  match linked with
  | [] => cases found
  | [only] =>
    cases found
    exact asked
  | _ :: _ :: _ => cases found

/-- The outputs are what the output of the region is linked to, one by one. -/
theorem Encloses.linked_outputs {input output : Node} {types others : Row}
    (encloses : program.Encloses region input output types others subgraph) :
    (List.range others.length).mapM (fun (offset : Nat) => program.linkedPorts (output.inputPort offset)) =
      .ok (subgraph.outputs.map fun port => [port]) :=
  Outcome.mapM_imp (fun _ _ _ => linkedPorts_of_feeder) encloses.outputs

/-! ### The value ports of a node -/

namespace AgreesOn

theorem kindAt?_eq_value_iff {port : Port} {op : Op} (found : program.ops.get? port.node = some op) {ty : Ty} :
    program.kindAt? port = some ⟨.value, some (.value ty)⟩ ↔
      ∃ offset : Nat, port.offset = offset ∧ (op.valueTypes port.direction)[offset]? = some ty := by
  rw [kindAt?_of_get? found]
  constructor
  · intro known
    obtain ⟨lower, -⟩ := Op.portKind?_inside known
    rw [← Int.toNat_of_nonneg lower] at known
    obtain ⟨_, carried, same⟩ := Op.portKind?_eq_value_iff.1 known
    cases same
    exact ⟨port.offset.toNat, (Int.toNat_of_nonneg lower).symm, carried⟩
  · rintro ⟨offset, same, carried⟩
    rw [same]
    exact Op.portKind?_eq_value_iff.2 ⟨ty, carried, rfl⟩

section

variable {node : Node} {op : Op} {direction : Direction} {groups : List (List Port)}
  (agrees : program.AgreesOn kids) (found : program.ops.get? node = some op)
  (asked : (List.range (op.valueTypes direction).length).mapM
    (fun (offset : Nat) => program.linkedPorts ⟨node, direction, offset⟩) = .ok groups)

include agrees found asked

/-- The ports that the value ports of a node are linked to, port by port. -/
theorem groups_eq : groups = (List.range (op.valueTypes direction).length).map fun (offset : Nat) =>
    (program.graph.edgesAt ⟨node, direction, offset⟩).map fun edge => edge.port direction.reverse := by
  rw [Outcome.mapM_of_forall fun offset mem => ?_, Except.ok.injEq] at asked
  · exact asked.symm
  · have carried := List.getElem?_eq_getElem (List.mem_range.1 mem)
    exact agrees.linkedPorts_eq (agrees.hasPort_of_kindAt?
      ((@kindAt?_eq_value_iff _ ⟨node, direction, offset⟩ op found _).2 ⟨offset, rfl, carried⟩))

/-- They are the other ends of the edges at the value ports. -/
theorem mem_groups {port : Port} : port ∈ groups.flatten ↔ ∃ edge ∈ program.graph.allEdges,
    (edge.port direction).node = node ∧ program.IsValuePort (edge.port direction) ∧
      edge.port direction.reverse = port := by
  rw [agrees.groups_eq found asked]
  simp only [List.mem_flatten, List.mem_map, List.mem_range, exists_exists_and_eq_and, agrees.isValuePort_iff,
    agrees.graph.mem_edgesAt_iff]
  constructor
  · rintro ⟨offset, inside, edge, ⟨mem, atPort⟩, same⟩
    refine ⟨edge, mem, by rw [atPort], ?_, same⟩
    rw [atPort]
    exact ⟨_, (@kindAt?_eq_value_iff _ ⟨node, direction, offset⟩ op found _).2
      ⟨offset, rfl, List.getElem?_eq_getElem inside⟩⟩
  · rintro ⟨edge, mem, atNode, ⟨ty, known⟩, same⟩
    -- a value port has an offset within the value types, so it is one of those that were asked
    have side := PortGraph.direction_port mem direction
    have isOp : program.ops.get? (edge.port direction).node = some op := by rw [atNode, found]
    obtain ⟨offset, atOffset, carried⟩ := (kindAt?_eq_value_iff isOp).1 known
    rw [side] at carried
    refine ⟨offset, (List.getElem?_eq_some_iff.1 carried).1, edge, ⟨mem, ?_⟩, same⟩
    rw [← atNode, ← atOffset]
    exact congrArg (fun side => Port.mk (edge.port direction).node side (edge.port direction).offset) side

/-- In an accepted program they carry the types of the node, if none of the value ports is unlinked. -/
theorem types_groups {registry : Registry} {requirements : Bool}
    (accepted : (program.validate registry requirements).Empty) (nonempty : ∀ group ∈ groups, group ≠ []) :
    groups.mapM (fun group => do
      let port ← require group.head? .position
      program.valueType port) = .ok (op.valueTypes direction) := by
  rw [agrees.groups_eq found asked] at nonempty ⊢
  rw [Outcome.mapM_eq_ok_iff, List.map_map]
  apply List.ext_getElem
  · simp
  · intro offset inside _
    rw [List.length_map, List.length_range] at inside
    have known := (@kindAt?_eq_value_iff _ ⟨node, direction, offset⟩ op found _).2
      ⟨offset, rfl, List.getElem?_eq_getElem inside⟩
    have linked := nonempty _ (List.mem_map_of_mem (List.mem_range.2 inside))
    rw [List.getElem_map, List.getElem_map, List.getElem_range, Function.comp_apply]
    cases listed : program.graph.edgesAt ⟨node, direction, offset⟩ with
    | nil =>
      rw [listed] at linked
      exact absurd rfl linked
    | cons edge rest =>
      obtain ⟨-, -, carried⟩ :=
        agrees.carried_of_accepted accepted known (by rw [listed]; exact List.mem_cons_self)
      exact valueType_eq_ok_iff.2 (agrees.portKind?_eq_ok_some_iff.2 (carried direction.reverse))

end

end AgreesOn

/-! ### The boundary -/

/-- An edge at the port leads to a node that is neither among some nodes nor inside one of them. -/
def LeadsOut (program : Program) (nodes : List Node) (port : Port) : Prop :=
  ∃ edge ∈ program.graph.allEdges, edge.source = port ∧
    ∀ node ∈ nodes, edge.target.node ∉ program.hierarchy.descendants node

/-- An edge at the port comes from a child of a region that is not among some nodes. -/
def FedWithin (program : Program) (region : Node) (nodes : List Node) (port : Port) : Prop :=
  ∃ edge ∈ program.graph.allEdges, edge.target = port ∧ edge.source.node ∉ nodes ∧
    program.hierarchy.parent? edge.source.node = some region

/-- Values enter the nodes from children of the region only. -/
def EnteredWithin (program : Program) (region : Node) (nodes : List Node) : Prop :=
  ∀ edge ∈ program.graph.allEdges, edge.kind = .value → edge.target.node ∈ nodes →
    program.hierarchy.parent? edge.source.node = some region

/-- The outputs of the subgraph of a region are all value ports that lead out of its nodes. Its inputs are the value
ports that are fed within the region; they are all that are fed from outside the nodes if no value enters the nodes
from further away. -/
structure Spans (program : Program) (region : Node) (subgraph : Subgraph) : Prop where
  between : ∃ input output, program.children region = .ok (input :: output :: subgraph.nodes)
  outputs_iff : ∀ port, port ∈ subgraph.outputs ↔ port.node ∈ subgraph.nodes ∧ port.direction = .outgoing ∧
    program.IsValuePort port ∧ program.LeadsOut subgraph.nodes port
  inputs_iff : ∀ port, port ∈ subgraph.inputs.flatten ↔ port.node ∈ subgraph.nodes ∧ port.direction = .incoming ∧
    program.IsValuePort port ∧ program.FedWithin region subgraph.nodes port
  complete_iff : (∀ port, port ∈ subgraph.inputs.flatten ↔ port.node ∈ subgraph.nodes ∧ port.direction = .incoming ∧
    program.IsValuePort port ∧ program.LinkedOutside subgraph.nodes port) ↔
      program.EnteredWithin region subgraph.nodes

namespace AgreesOn

theorem not_isValuePort (agrees : program.AgreesOn kids) {edge : Edge} (mem : edge ∈ program.graph.allEdges)
    {direction : Direction} {node : Node} {op : Op} (atNode : (edge.port direction).node = node)
    (found : program.ops.get? node = some op) (none : op.valueTypes direction = []) :
    ¬ program.IsValuePort (edge.port direction) := by
  intro value
  obtain ⟨ty, known⟩ := agrees.isValuePort_iff.1 value
  rw [← atNode] at found
  obtain ⟨offset, -, carried⟩ := (kindAt?_eq_value_iff found).1 known
  rw [PortGraph.direction_port mem, none] at carried
  cases carried

/-- Both ends of an edge at a value port are value ports. -/
theorem values_of_accepted (agrees : program.AgreesOn kids) {registry : Registry} {requirements : Bool}
    (accepted : (program.validate registry requirements).Empty) {edge : Edge} (mem : edge ∈ program.graph.allEdges)
    {direction : Direction} (value : program.IsValuePort (edge.port direction)) :
    edge.kind = .value ∧ (∃ type, Local program kids edge type) ∧ ∀ side, program.IsValuePort (edge.port side) := by
  obtain ⟨ty, known⟩ := agrees.isValuePort_iff.1 value
  have listed : edge ∈ program.graph.edgesAt (edge.port direction) :=
    agrees.graph.mem_edgesAt_iff.2 ⟨mem, by rw [PortGraph.direction_port mem]⟩
  obtain ⟨kind, nearby, carried⟩ := agrees.carried_of_accepted accepted known listed
  exact ⟨kind, ⟨_, nearby⟩, fun side => agrees.isValuePort_iff.2 ⟨ty, carried side⟩⟩

/-- A value edge joins value ports. -/
theorem values_of_kind (agrees : program.AgreesOn kids) {registry : Registry} {requirements : Bool}
    (accepted : (program.validate registry requirements).Empty) {edge : Edge} (mem : edge ∈ program.graph.allEdges)
    (kind : edge.kind = .value) (side : Direction) : program.IsValuePort (edge.port side) := by
  obtain ⟨link, recorded, same⟩ := PortGraph.mem_allEdges.1 mem
  have joined := agrees.joined_of_accepted accepted recorded
  rw [← same] at joined
  obtain ⟨op, -, start, -, isOp, -, isStart, -, startKind, -⟩ := joined
  obtain ⟨ty, rfl⟩ := Op.exists_type_of_value isStart (startKind.trans kind)
  have source : program.IsValuePort (edge.port .outgoing) :=
    agrees.isValuePort_iff.2 ⟨ty, (kindAt?_of_get? isOp).trans isStart⟩
  exact (agrees.values_of_accepted accepted mem source).2.2 side

/-- A value port of a child takes one edge. -/
theorem edge_unique_of_accepted (agrees : program.AgreesOn kids) {registry : Registry} {requirements : Bool}
    (accepted : (program.validate registry requirements).Empty) {parent : Node} {first second : Edge}
    (isFirst : first ∈ program.graph.allEdges) (isSecond : second ∈ program.graph.allEdges)
    (same : first.target = second.target) (value : program.IsValuePort first.target)
    (isChild : first.target.node ∈ kids parent) : first = second := by
  obtain ⟨ty, known⟩ := agrees.isValuePort_iff.1 value
  have side : first.target.direction = .incoming := PortGraph.direction_port isFirst .incoming
  have needs : NeedsOne first.target.direction ⟨.value, some (.value ty)⟩ := by
    rw [side]
    exact needsOne_incoming rfl
  have single := agrees.length_idsAt_of_accepted accepted isChild known needs
  rw [← agrees.graph.length_edgesAt] at single
  obtain ⟨only, listed⟩ := List.length_eq_one_iff.1 single
  have each : ∀ {edge : Edge}, edge ∈ program.graph.allEdges → edge.target = first.target → edge = only := by
    intro edge mem atTarget
    rw [← List.mem_singleton, ← listed, agrees.graph.mem_edgesAt_iff, side]
    exact ⟨mem, atTarget⟩
  rw [each isFirst rfl, each isSecond same.symm]

/-- A value that comes from a child of a region stays inside the region. -/
theorem exists_child_of_value (agrees : program.AgreesOn kids) {edge : Edge} {type : Option PortType}
    (nearby : Local program kids edge type) (value : edge.kind = .value) (isChild : edge.source.node ∈ kids region) :
    ∃ child ∈ kids region, edge.target.node = child ∨ Above kids child edge.target.node := by
  obtain ⟨parent, inParent, reach⟩ := nearby
  obtain rfl := agrees.stores.parent_unique inParent isChild
  rw [value] at reach
  rcases reach with sibling | ⟨-, below⟩
  · exact ⟨_, sibling, .inl rfl⟩
  · obtain ⟨child, holds, path⟩ := Relation.TransGen.head'_iff.1 below
    exact ⟨child, holds, Relation.reflTransGen_iff_eq_or_transGen.1 path⟩

theorem childless_of_accepted (agrees : program.AgreesOn kids) {registry : Registry} {requirements : Bool}
    (accepted : (program.validate registry requirements).Empty) {node : Node} {op : Op}
    (found : program.ops.get? node = some op) (leaf : op.isContainer = false) : kids node = [] := by
  cases children : kids node with
  | nil => rfl
  | cons child rest =>
    have isChild : child ∈ kids node := by
      rw [children]
      exact List.mem_cons_self
    rw [agrees.isContainer_of_accepted accepted isChild found] at leaf
    cases leaf

end AgreesOn

theorem mem_of_checkIncoming {nodes : List Node} {port : Port} (checked : program.checkIncoming nodes port = .ok ()) :
    port.node ∈ nodes := by
  rw [checkIncoming] at checked
  split at checked
  · cases checked
  · rename_i own
    rw [not_or, not_not, not_not] at own
    exact own.2

theorem checkGroup_spec {nodes : List Node} {group : List Port} (checked : program.checkGroup nodes group = .ok ()) :
    group ≠ [] ∧ ∀ port ∈ group, program.checkIncoming nodes port = .ok () := by
  cases group with
  | nil => cases checked
  | cons first rest =>
    obtain ⟨_, each, -⟩ := Outcome.bind_eq_ok_iff.1 checked
    exact ⟨List.cons_ne_nil first rest, Outcome.forM_eq_ok_iff.1 each⟩

namespace Encloses

variable {input output : Node} {types others : Row}
  (encloses : program.Encloses region input output types others subgraph) (agrees : program.AgreesOn kids)

include encloses agrees

theorem kids_eq : kids region = input :: output :: subgraph.nodes := by
  have listed := encloses.children
  obtain ⟨_, checked, -⟩ := Outcome.bind_eq_ok_iff.1 listed
  rw [agrees.children_eq (agrees.checkNode_eq_ok_iff.1 checked), Except.ok.injEq] at listed
  exact listed

theorem mem_kids {node : Node} : node ∈ kids region ↔ node = input ∨ node = output ∨ node ∈ subgraph.nodes := by
  rw [encloses.kids_eq agrees, List.mem_cons, List.mem_cons]

/-- The input and the output are not among the nodes between them. -/
theorem apart : input ∉ subgraph.nodes ∧ output ∉ subgraph.nodes := by
  have distinct := agrees.stores.distinct region
  rw [encloses.kids_eq agrees, List.nodup_cons, List.nodup_cons] at distinct
  exact ⟨fun mem => distinct.1 (List.mem_cons_of_mem output mem), distinct.2.1⟩

/-- The inputs are the value ports that the input of the region feeds. -/
theorem mem_inputs {port : Port} : port ∈ subgraph.inputs.flatten ↔ ∃ edge ∈ program.graph.allEdges,
    edge.source.node = input ∧ program.IsValuePort edge.source ∧ edge.target = port :=
  @AgreesOn.mem_groups _ _ input _ .outgoing _ agrees (op_eq_ok encloses.atInput) encloses.inputs port

/-- The outputs are the value ports that feed the output of the region. -/
theorem mem_outputs {port : Port} : port ∈ subgraph.outputs ↔ ∃ edge ∈ program.graph.allEdges,
    edge.target.node = output ∧ program.IsValuePort edge.target ∧ edge.source = port := by
  have groups := @AgreesOn.mem_groups _ _ output _ .incoming _ agrees (op_eq_ok encloses.atOutput)
    encloses.linked_outputs port
  rwa [← List.flatMap_def, List.flatMap_singleton'] at groups

omit agrees in
/-- What is on the boundary belongs to the nodes. -/
theorem inside : (∀ port ∈ subgraph.inputs.flatten, port.node ∈ subgraph.nodes) ∧
    ∀ port ∈ subgraph.outputs, port.node ∈ subgraph.nodes := by
  obtain ⟨-, -, groups, -, outputs⟩ := AgreesOn.checkBoundary_eq_ok_iff.1 encloses.boundary
  constructor
  · intro port mem
    obtain ⟨group, isGroup, inGroup⟩ := List.mem_flatten.1 mem
    exact mem_of_checkIncoming ((checkGroup_spec (groups group isGroup)).2 port inGroup)
  · exact fun port mem => (AgreesOn.checkOutgoing_eq_ok_iff.1 (outputs port mem)).2

/-- The input and the output are not inside one of the nodes between them. -/
theorem not_inside {node child : Node} (isMember : node ∈ subgraph.nodes) (isSibling : child ∈ kids region) :
    ¬ Above kids node child := by
  have isChild : node ∈ kids region := (encloses.mem_kids agrees).2 (.inr (.inr isMember))
  intro above
  -- a node above a sibling is the region or above it, and would be above itself
  rcases (agrees.stores.above_iff isSibling node).1 above with rfl | further
  · exact agrees.stores.not_above_self node (.single isChild)
  · exact agrees.stores.not_above_self region (.head isChild further)

section

variable {registry : Registry} {requirements : Bool} (accepted : (program.validate registry requirements).Empty)

include accepted

/-- The input and the output have the types of the region. -/
theorem exists_inner : ∃ op inner, program.op region = .ok op ∧ op.childRules = .dataflow ∧ op.inner? = some inner ∧
    types = inner.input ∧ others = inner.output := by
  have isChild : input ∈ kids region := (encloses.mem_kids agrees).2 (.inl rfl)
  obtain ⟨op, isRegion⟩ := agrees.get?_of_contains (agrees.kids_live region input isChild).2
  have atInput := op_eq_ok encloses.atInput
  obtain ⟨dataflow, inner, within⟩ :=
    Op.exists_inner?_of_allowed (agrees.allowed_of_accepted accepted isChild isRegion atInput)
  obtain ⟨first, second, rest, same, isInput, isOutput⟩ := agrees.boundary_of_accepted accepted isRegion dataflow within
  rw [encloses.kids_eq agrees, List.cons.injEq, List.cons.injEq] at same
  obtain ⟨rfl, rfl, -⟩ := same
  rw [atInput, Option.some.injEq, Op.input.injEq] at isInput
  rw [op_eq_ok encloses.atOutput, Option.some.injEq, Op.output.injEq] at isOutput
  exact ⟨op, inner, agrees.op_eq_ok_iff.2 isRegion, dataflow, within, isInput, isOutput⟩

/-- The subgraph has the types of the input and the output. -/
theorem signature_eq : program.subgraphSignature subgraph = .ok (.ofRows types others) := by
  obtain ⟨-, -, groups, -, -⟩ := AgreesOn.checkBoundary_eq_ok_iff.1 encloses.boundary
  have first := @AgreesOn.types_groups _ _ input _ .outgoing _ agrees (op_eq_ok encloses.atInput) encloses.inputs _ _
    accepted fun group mem => (checkGroup_spec (groups group mem)).1
  have second := @AgreesOn.types_groups _ _ output _ .incoming _ agrees (op_eq_ok encloses.atOutput)
    encloses.linked_outputs _ _ accepted (List.forall_mem_map.2 fun port _ => List.cons_ne_nil port [])
  rw [List.mapM_map] at second
  rw [subgraphSignature, first, Outcome.ok_bind]
  exact Outcome.bind_eq_ok_iff.2 ⟨others, second, rfl⟩

/-- A value that leads out of the nodes goes to the output of the region. -/
theorem target_of_leaving {edge : Edge} (mem : edge ∈ program.graph.allEdges)
    (value : program.IsValuePort edge.source) (leaves : edge.source.node ∈ subgraph.nodes)
    (outside : ∀ node ∈ subgraph.nodes, edge.target.node ∉ program.hierarchy.descendants node) :
    edge.target.node = output := by
  obtain ⟨kind, ⟨type, nearby⟩, values⟩ := @AgreesOn.values_of_accepted _ _ agrees _ _ accepted _ mem .outgoing value
  have isChild : edge.source.node ∈ kids region := (encloses.mem_kids agrees).2 (.inr (.inr leaves))
  obtain ⟨child, isSibling, reached⟩ := agrees.exists_child_of_value nearby kind isChild
  -- nothing is inside the input and the output
  have leaf : ∀ {op : Op}, program.ops.get? child = some op → op.isContainer = false → edge.target.node = child := by
    intro op found leaf
    refine reached.resolve_right fun below => ?_
    obtain ⟨next, holds, -⟩ := Relation.TransGen.head'_iff.1 below
    rw [Holds, agrees.childless_of_accepted accepted found leaf] at holds
    cases holds
  rcases (encloses.mem_kids agrees).1 isSibling with rfl | rfl | isMember
  · have isInput := op_eq_ok encloses.atInput
    have atTarget := leaf isInput rfl
    exact absurd (values .incoming) (agrees.not_isValuePort mem atTarget isInput rfl)
  · exact leaf (op_eq_ok encloses.atOutput) rfl
  · exact absurd (agrees.stores.mem_descendants.2 reached) (outside child isMember)

theorem outputs_iff {port : Port} : port ∈ subgraph.outputs ↔ port.node ∈ subgraph.nodes ∧
    port.direction = .outgoing ∧ program.IsValuePort port ∧ program.LeadsOut subgraph.nodes port := by
  rw [encloses.mem_outputs agrees]
  constructor
  · rintro ⟨edge, mem, toOutput, value, rfl⟩
    obtain ⟨-, -, values⟩ := @AgreesOn.values_of_accepted _ _ agrees _ _ accepted _ mem .incoming value
    have isOutput : edge.source ∈ subgraph.outputs := (encloses.mem_outputs agrees).2 ⟨edge, mem, toOutput, value, rfl⟩
    refine ⟨encloses.inside.2 _ isOutput, PortGraph.direction_port mem .outgoing, values .outgoing, edge, mem, rfl,
      fun node isMember below => ?_⟩
    rw [toOutput, agrees.stores.mem_descendants] at below
    have isSibling : output ∈ kids region := (encloses.mem_kids agrees).2 (.inr (.inl rfl))
    rcases below with rfl | above
    · exact (encloses.apart agrees).2 isMember
    · exact encloses.not_inside agrees isMember isSibling above
  · rintro ⟨leaves, -, value, edge, mem, rfl, outside⟩
    obtain ⟨-, -, values⟩ := @AgreesOn.values_of_accepted _ _ agrees _ _ accepted _ mem .outgoing value
    exact ⟨edge, mem, encloses.target_of_leaving agrees accepted mem value leaves outside, values .incoming, rfl⟩

theorem inputs_iff {port : Port} : port ∈ subgraph.inputs.flatten ↔ port.node ∈ subgraph.nodes ∧
    port.direction = .incoming ∧ program.IsValuePort port ∧ program.FedWithin region subgraph.nodes port := by
  rw [encloses.mem_inputs agrees]
  constructor
  · rintro ⟨edge, mem, fromInput, value, rfl⟩
    obtain ⟨-, -, values⟩ := @AgreesOn.values_of_accepted _ _ agrees _ _ accepted _ mem .outgoing value
    have isInput : edge.target ∈ subgraph.inputs.flatten :=
      (encloses.mem_inputs agrees).2 ⟨edge, mem, fromInput, value, rfl⟩
    refine ⟨encloses.inside.1 _ isInput, PortGraph.direction_port mem .incoming, values .incoming, edge, mem, rfl, ?_⟩
    rw [fromInput, Hierarchy.parent?, agrees.stores.parent_iff, encloses.mem_kids agrees]
    exact ⟨(encloses.apart agrees).1, .inl rfl⟩
  · rintro ⟨-, -, value, edge, mem, rfl, outside, within⟩
    obtain ⟨-, -, values⟩ := @AgreesOn.values_of_accepted _ _ agrees _ _ accepted _ mem .incoming value
    rw [Hierarchy.parent?, agrees.stores.parent_iff, encloses.mem_kids agrees] at within
    refine ⟨edge, mem, within.resolve_right fun others => ?_, values .outgoing, rfl⟩
    -- the output of the region gives no values
    have atOutput := others.resolve_right outside
    exact @AgreesOn.not_isValuePort _ _ agrees _ mem .outgoing _ _ atOutput (op_eq_ok encloses.atOutput) rfl
      (values .outgoing)

theorem complete_iff : (∀ port, port ∈ subgraph.inputs.flatten ↔ port.node ∈ subgraph.nodes ∧
    port.direction = .incoming ∧ program.IsValuePort port ∧ program.LinkedOutside subgraph.nodes port) ↔
      program.EnteredWithin region subgraph.nodes := by
  have isChild : ∀ {node}, node ∈ subgraph.nodes → node ∈ kids region :=
    fun mem => (encloses.mem_kids agrees).2 (.inr (.inr mem))
  constructor
  · intro complete edge mem kind enters
    -- a value from outside makes its target an input, which is fed within the region, and only once
    by_cases inside : edge.source.node ∈ subgraph.nodes
    · exact (agrees.stores.parent_iff _ _).2 (isChild inside)
    · have value := agrees.values_of_kind accepted mem kind .incoming
      have side : edge.target.direction = .incoming := PortGraph.direction_port mem .incoming
      have isInput := (complete edge.target).2
        ⟨enters, side, value, edge, mem, by rw [side]; rfl, by rw [side]; exact inside⟩
      obtain ⟨-, -, -, other, isOther, same, -, within⟩ := (encloses.inputs_iff agrees accepted).1 isInput
      rwa [agrees.edge_unique_of_accepted accepted mem isOther same.symm value (isChild enters)]
  · intro within port
    rw [encloses.inputs_iff agrees accepted]
    refine and_congr_right fun isMember => and_congr_right fun side => and_congr_right fun value => ?_
    simp only [FedWithin, LinkedOutside, side]
    constructor
    · rintro ⟨edge, mem, atPort, outside, -⟩
      exact ⟨edge, mem, atPort, outside⟩
    · rintro ⟨edge, mem, rfl, outside⟩
      obtain ⟨kind, -, -⟩ := agrees.values_of_accepted accepted mem value
      exact ⟨edge, mem, rfl, outside, within edge mem kind isMember⟩

end

end Encloses

/-! ### Accepted programs -/

/-- In an accepted program the outputs of the subgraph of a region are all that leads out of it, and its inputs are
what the region itself feeds to it. -/
theorem spans_region (reachable : Reachable program) {registry : Registry}
    (accepted : program.validate registry false = .ok []) (built : program.regionSubgraph region = .ok subgraph) :
    program.Spans region subgraph := by
  have agrees : program.AgreesOn program.hierarchy.children := reachable.consistent
  obtain ⟨input, output, types, others, encloses⟩ := exists_encloses built
  exact ⟨⟨input, output, encloses.children⟩, fun port => encloses.outputs_iff agrees accepted,
    fun port => encloses.inputs_iff agrees accepted, encloses.complete_iff agrees accepted⟩

/-- A number that goes through one node to the output of an inner region. -/
def feedingInside : Program :=
  (ofRoot (.dfg [Standard.usize] [Standard.usize] none)).edited [
    .addChild ⟨0, 0⟩ (.input [Standard.usize]),
    .addChild ⟨0, 0⟩ (.output [Standard.usize]),
    .addChild ⟨0, 0⟩ (.noop Standard.usize),
    .addChild ⟨0, 0⟩ (.dfg [] [Standard.usize] none),
    .addChild ⟨4, 0⟩ (.input []),
    .addChild ⟨4, 0⟩ (.output [Standard.usize]),
    .connect ⟨1, 0⟩ 0 ⟨3, 0⟩ 0,
    .connect ⟨3, 0⟩ 0 ⟨6, 0⟩ 0,
    .connect ⟨4, 0⟩ 0 ⟨2, 0⟩ 0]

/-- The port that feeds the inner region is no output of the outer one, whose inputs are complete. -/
theorem spans_region_feedingInside :
    feedingInside.Spans ⟨0, 0⟩ ⟨[⟨3, 0⟩, ⟨4, 0⟩], [[⟨⟨3, 0⟩, .incoming, 0⟩]], [⟨⟨4, 0⟩, .outgoing, 0⟩]⟩ ∧
      feedingInside.EnteredWithin ⟨0, 0⟩ [⟨3, 0⟩, ⟨4, 0⟩] := by
  have reachable : Reachable feedingInside := (Reachable.ofRoot _).edits _
  have accepted : feedingInside.validate .prelude false = .ok [] := by decide +kernel
  refine ⟨spans_region reachable accepted (by with_unfolding_all rfl), ?_⟩
  unfold EnteredWithin
  decide +kernel

/-- A number that enters an inner region past the input of that region. -/
def enteringPast : Program :=
  (ofRoot (.dfg [Standard.usize] [Standard.usize] none)).edited [
    .addChild ⟨0, 0⟩ (.input [Standard.usize]),
    .addChild ⟨0, 0⟩ (.output [Standard.usize]),
    .addChild ⟨0, 0⟩ (.dfg [] [Standard.usize] none),
    .addChild ⟨3, 0⟩ (.input []),
    .addChild ⟨3, 0⟩ (.output [Standard.usize]),
    .addChild ⟨3, 0⟩ (.noop Standard.usize),
    .connect ⟨1, 0⟩ 0 ⟨6, 0⟩ 0,
    .connect ⟨6, 0⟩ 0 ⟨5, 0⟩ 0,
    .connect ⟨3, 0⟩ 0 ⟨2, 0⟩ 0]

/-- A value port of an accepted program that is fed from outside, and is no input of the subgraph of its region. -/
theorem overlooked_input :
    Reachable enteringPast ∧ enteringPast.validate .prelude false = .ok [] ∧
      enteringPast.regionSubgraph ⟨3, 0⟩ = .ok ⟨[⟨6, 0⟩], [], [⟨⟨6, 0⟩, .outgoing, 0⟩]⟩ ∧
      enteringPast.IsValuePort ⟨⟨6, 0⟩, .incoming, 0⟩ ∧
      enteringPast.LinkedOutside [⟨6, 0⟩] ⟨⟨6, 0⟩, .incoming, 0⟩ :=
  ⟨(Reachable.ofRoot _).edits _, by decide +kernel, by with_unfolding_all rfl, ⟨Standard.usize, by
    with_unfolding_all rfl⟩, by unfold LinkedOutside; decide +kernel⟩

/-- In an accepted program the subgraph of a region has the types of the region. -/
theorem signature_of_region (reachable : Reachable program) {registry : Registry}
    (accepted : program.validate registry false = .ok []) (built : program.regionSubgraph region = .ok subgraph) :
    ∃ op inner signature, program.op region = .ok op ∧ op.childRules = .dataflow ∧ op.inner? = some inner ∧
      program.subgraphSignature subgraph = .ok signature ∧ signature.input = inner.input ∧
      signature.output = inner.output := by
  have agrees : program.AgreesOn program.hierarchy.children := reachable.consistent
  obtain ⟨input, output, types, others, encloses⟩ := exists_encloses built
  obtain ⟨op, inner, isRegion, dataflow, within, rfl, rfl⟩ := encloses.exists_inner agrees accepted
  exact ⟨op, inner, _, isRegion, dataflow, within, encloses.signature_eq agrees accepted, rfl, rfl⟩

/-- A loop that goes on with a number, and copies another one that it hands over. -/
def copyingLoop : Program :=
  (ofRoot (.tailLoop [Standard.usize] [] [Standard.usize] none)).edited [
    .addChild ⟨0, 0⟩ (.input [Standard.usize, Standard.usize]),
    .addChild ⟨0, 0⟩ (.output [.sum [[Standard.usize], []], Standard.usize]),
    .addChild ⟨0, 0⟩ (.tag [[Standard.usize], []] ⟨0, by decide⟩),
    .addChild ⟨0, 0⟩ (.noop Standard.usize),
    .addChild ⟨0, 0⟩ (.noop Standard.usize),
    .connect ⟨1, 0⟩ 0 ⟨3, 0⟩ 0,
    .connect ⟨1, 0⟩ 1 ⟨4, 0⟩ 0,
    .connect ⟨1, 0⟩ 1 ⟨5, 0⟩ 0,
    .connect ⟨3, 0⟩ 0 ⟨2, 0⟩ 0,
    .connect ⟨4, 0⟩ 0 ⟨2, 0⟩ 1]

/-- The copies are one input of the subgraph, and its output starts with the sum that tells whether to go on. -/
theorem signature_of_region_copyingLoop :
    ∃ signature, copyingLoop.subgraphSignature ⟨[⟨3, 0⟩, ⟨4, 0⟩, ⟨5, 0⟩],
        [[⟨⟨3, 0⟩, .incoming, 0⟩], [⟨⟨4, 0⟩, .incoming, 0⟩, ⟨⟨5, 0⟩, .incoming, 0⟩]],
        [⟨⟨3, 0⟩, .outgoing, 0⟩, ⟨⟨4, 0⟩, .outgoing, 0⟩]⟩ = .ok signature ∧
      signature.input = [Standard.usize, Standard.usize] ∧
      signature.output = [.sum [[Standard.usize], []], Standard.usize] := by
  have reachable : Reachable copyingLoop := (Reachable.ofRoot _).edits _
  have accepted : copyingLoop.validate .prelude false = .ok [] := by decide +kernel
  have built : copyingLoop.regionSubgraph ⟨0, 0⟩ = .ok ⟨[⟨3, 0⟩, ⟨4, 0⟩, ⟨5, 0⟩],
      [[⟨⟨3, 0⟩, .incoming, 0⟩], [⟨⟨4, 0⟩, .incoming, 0⟩, ⟨⟨5, 0⟩, .incoming, 0⟩]],
      [⟨⟨3, 0⟩, .outgoing, 0⟩, ⟨⟨4, 0⟩, .outgoing, 0⟩]⟩ := by with_unfolding_all rfl
  have isLoop : copyingLoop.op ⟨0, 0⟩ = .ok (.tailLoop [Standard.usize] [] [Standard.usize] none) := by
    with_unfolding_all rfl
  obtain ⟨op, inner, signature, found, -, within, typed, inputs, outputs⟩ :=
    signature_of_region reachable accepted built
  rw [isLoop, Except.ok.injEq] at found
  subst found
  cases within
  exact ⟨signature, typed, inputs, outputs⟩

end Program

end NestedFlow
