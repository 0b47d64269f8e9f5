import NestedFlow.Proofs.PortGraph.Questions
import NestedFlow.Proofs.Program.Wiring

/-! Answers about programs whose structures agree: questions about live nodes always have one. -/

set_option autoImplicit false

namespace NestedFlow

namespace Program.AgreesOn

variable {program : Program} {kids : Node → List Node}

theorem op_eq_ok_iff (agrees : program.AgreesOn kids) {node : Node} {op : Op} :
    program.op node = .ok op ↔ program.ops.get? node = some op := by
  constructor
  · exact op_eq_ok
  · intro found
    rw [Program.op, agrees.checkNode_eq_ok_iff.2 (agrees.contains_of_get? found), Outcome.ok_bind, entry_eq_ok_iff,
      found]

theorem parent?_eq (agrees : program.AgreesOn kids) {node : Node} (live : program.graph.contains node = true) :
    program.parent? node = .ok (program.hierarchy.parent? node) := by
  rw [Program.parent?, agrees.checkNode_eq_ok_iff.2 live]
  rfl

theorem parent?_eq_ok_some_iff (agrees : program.AgreesOn kids) {parent child : Node} :
    program.parent? child = .ok (some parent) ↔ child ∈ kids parent := by
  rw [← agrees.stores.parent_iff]
  constructor
  · intro asked
    obtain ⟨_, _, found⟩ := Outcome.bind_eq_ok_iff.1 asked
    exact Except.ok.inj found
  · intro above
    rw [agrees.parent?_eq (agrees.kids_live parent child ((agrees.stores.parent_iff child parent).1 above)).1]
    exact congrArg Except.ok above

theorem children_eq (agrees : program.AgreesOn kids) {node : Node} (live : program.graph.contains node = true) :
    program.children node = .ok (kids node) := by
  rw [Program.children, agrees.checkNode_eq_ok_iff.2 live, ← agrees.stores.children_eq]
  rfl

theorem descendants_eq (agrees : program.AgreesOn kids) {node : Node} (live : program.graph.contains node = true) :
    program.descendants node = .ok (program.hierarchy.descendants node) := by
  rw [Program.descendants, agrees.checkNode_eq_ok_iff.2 live]
  rfl

theorem portEdges_eq (agrees : program.AgreesOn kids) {port : Port} (has : program.graph.HasPort port) :
    program.portEdges port = .ok (program.graph.edgesAt port) := by
  rw [Program.portEdges, agrees.checkNode_eq_ok_iff.2 (PortGraph.contains_of_hasPort has), Outcome.ok_bind,
    agrees.graph.portEdges_eq has]

theorem portEdges_eq_ok_iff (agrees : program.AgreesOn kids) {port : Port} {edges : List Edge} :
    program.portEdges port = .ok edges ↔ program.graph.HasPort port ∧ edges = program.graph.edgesAt port := by
  constructor
  · intro asked
    obtain ⟨_, _, found⟩ := Outcome.bind_eq_ok_iff.1 asked
    obtain ⟨_, checked, _⟩ := Outcome.bind_eq_ok_iff.1 found
    have has := PortGraph.checkPort_eq_ok_iff.1 checked
    rw [agrees.portEdges_eq has, Except.ok.injEq] at asked
    exact ⟨has, asked.symm⟩
  · rintro ⟨has, rfl⟩
    exact agrees.portEdges_eq has

theorem linkedPorts_eq (agrees : program.AgreesOn kids) {port : Port} (has : program.graph.HasPort port) :
    program.linkedPorts port = .ok ((program.graph.edgesAt port).map fun edge => edge.port port.direction.reverse) := by
  rw [Program.linkedPorts, agrees.checkNode_eq_ok_iff.2 (PortGraph.contains_of_hasPort has), Outcome.ok_bind,
    agrees.graph.linkedPorts_eq has]

theorem portKind?_eq (agrees : program.AgreesOn kids) {port : Port} {op : Op}
    (found : program.ops.get? port.node = some op) :
    program.portKind? port = .ok (op.portKind? port.direction port.offset) := by
  rw [Program.portKind?, agrees.op_eq_ok_iff.2 found]
  rfl

theorem portKind?_eq_ok_some_iff (agrees : program.AgreesOn kids) {port : Port} {kind : PortKind} :
    program.portKind? port = .ok (some kind) ↔ program.kindAt? port = some kind := by
  cases found : program.ops.get? port.node with
  | some op => rw [agrees.portKind?_eq found, kindAt?_of_get? found, Except.ok.injEq]
  | none =>
    refine iff_of_false (fun asked => ?_) fun known => ?_
    · obtain ⟨op, isOp, -⟩ := Outcome.bind_eq_ok_iff.1 asked
      rw [agrees.op_eq_ok_iff, found] at isOp
      cases isOp
    · rw [kindAt?, found] at known
      cases known

theorem numPorts_eq (agrees : program.AgreesOn kids) {node : Node} {op : Op} (found : program.ops.get? node = some op)
    (direction : Direction) : program.graph.numPorts node direction = .ok (op.portCount direction) := by
  rw [PortGraph.numPorts_of_contains (agrees.contains_of_get? found), agrees.portTotals node op found]

end Program.AgreesOn

end NestedFlow
