import NestedFlow.Proofs.Report
import NestedFlow.Proofs.Table

/-! A program is reported like the same program without the declared sets of its regions, as far as requirements are not
concerned. The reports are gone through one by one: what they look at, and what they say, are names, tags, ports and
types of operations.
-/

set_option autoImplicit false

namespace NestedFlow

namespace Op

/-- The operation without its declared set, if it could have one. -/
def bare : Op → Op
  | .dfg inputs outputs _ => .dfg inputs outputs none
  | .conditional sumRows otherInputs outputs _ => .conditional sumRows otherInputs outputs none
  | .branch inputs outputs _ => .branch inputs outputs none
  | .tailLoop justInputs justOutputs rest _ => .tailLoop justInputs justOutputs rest none
  | .cfg inputs outputs _ => .cfg inputs outputs none
  | .block inputs sumRows otherOutputs _ => .block inputs sumRows otherOutputs none
  | op => op

variable (op : Op)

@[simp] theorem opTag_bare : op.bare.opTag = op.opTag := by cases op <;> rfl

@[simp] theorem childRules_bare : op.bare.childRules = op.childRules := by cases op <;> rfl

theorem inner?_bare : op.bare.inner?.map (fun inner => (inner.input, inner.output)) =
    op.inner?.map fun inner => (inner.input, inner.output) := by
  cases op <;> rfl

@[simp] theorem portCount_bare (direction : Direction) : op.bare.portCount direction = op.portCount direction := by
  cases op <;> cases direction <;> rfl

@[simp] theorem portKind?_bare (direction : Direction) (offset : Int) :
    op.bare.portKind? direction offset = op.portKind? direction offset := by
  cases op <;> cases direction <;> rfl

theorem portTypes_bare : Program.portTypes op.bare = Program.portTypes op := by
  cases op <;> rfl

theorem checkOp_bare (registry : Registry) : Program.checkOp registry op.bare = Program.checkOp registry op := by
  cases op <;> rfl

end Op

/-! ### Faults -/

/-- The fault about operations without their declared sets. -/
def StructureFault.bare : StructureFault → StructureFault
  | .portTotal op expected direction found => .portTotal op.bare expected direction found
  | .childClass op parent => .childClass op.bare parent.bare
  | .childless op => .childless op.bare
  | .firstChild op found => .firstChild op.bare found
  | .secondChild op found => .secondChild op.bare found
  | .lacksSecond op => .lacksSecond op.bare
  | .strayBoundary op => .strayBoundary op.bare
  | .regionCycle op => .regionCycle op.bare
  | .inputLinks kind offset op count => .inputLinks kind offset op.bare count
  | cause => cause

theorem StructureFault.message_bare (cause : StructureFault) : cause.bare.message = cause.message := by
  cases cause with
  | childClass op parent =>
    trans (StructureFault.childClass op.bare parent).message
    · cases parent <;> rfl
    · cases op <;> rfl
  | portTotal op | childless op | firstChild op | secondChild op | lacksSecond op | strayBoundary op | regionCycle op
  | inputLinks _ _ op => cases op <;> rfl
  | _ => rfl

namespace Fault

def bare : Fault → Fault
  | .shape cause => .shape cause.bare
  | .mismatch (.boundary side op found expected) => .mismatch (.boundary side op.bare found expected)
  | .linearity (.neverConsumed offset op type) => .linearity (.neverConsumed offset op.bare type)
  | .linearity (.usedTimes offset op type count) => .linearity (.usedTimes offset op.bare type count)
  | fault => fault

/-- Operations occur in messages by their names and tags, which say nothing of a declared set. -/
theorem bare_reads (fault : Fault) : fault.bare.kind = fault.kind ∧ fault.bare.message = fault.message := by
  cases fault with
  | shape cause => exact ⟨rfl, cause.message_bare⟩
  | mismatch cause =>
    cases cause with
    | boundary side op => cases op <;> exact ⟨rfl, rfl⟩
    | _ => exact ⟨rfl, rfl⟩
  | linearity cause =>
    cases cause with
    | alreadyDrives => exact ⟨rfl, rfl⟩
    | neverConsumed _ op | usedTimes _ op => cases op <;> exact ⟨rfl, rfl⟩
  | _ => exact ⟨rfl, rfl⟩

end Fault

theorem Report.alike_bare {node : Node} (fault : Fault) : (single node fault.bare).Alike (single node fault) :=
  alike_single fault.bare_reads.1 fault.bare_reads.2

namespace Program

open Report

/-- The program without the declared sets of its regions. -/
def bare (program : Program) : Program := { program with ops := program.ops.mapValues fun _ op => op.bare }

variable {program : Program}

@[simp] theorem graph_bare : program.bare.graph = program.graph := rfl

@[simp] theorem root_bare : program.bare.root = program.root := rfl

theorem contains_bare (node : Node) : program.bare.contains node = program.contains node := by
  have ops : program.bare.ops.contains node = program.ops.contains node := by
    simp [bare, Table.contains, Table.get?_mapValues]
  rw [contains, contains, ops]
  rfl

theorem checkNode_bare (node : Node) : program.bare.checkNode node = program.checkNode node := by
  rw [checkNode, checkNode, contains_bare]

theorem op_bare (node : Node) : program.bare.op node = program.op node >>= fun op => .ok op.bare := by
  rw [op, op, checkNode_bare]
  cases program.checkNode node with
  | error error => rfl
  | ok live =>
    simp only [Outcome.ok_bind, entry, bare, Table.get?_mapValues]
    cases program.ops.get? node <;> rfl

theorem parent?_bare (node : Node) : program.bare.parent? node = program.parent? node := by
  simp only [parent?, checkNode_bare]
  rfl

theorem children_bare (node : Node) : program.bare.children node = program.children node := by
  simp only [children, checkNode_bare]
  rfl

theorem descendants_bare (node : Node) : program.bare.descendants node = program.descendants node := by
  simp only [descendants, checkNode_bare]
  rfl

theorem portEdges_bare (port : Port) : program.bare.portEdges port = program.portEdges port := by
  simp only [portEdges, checkNode_bare]
  rfl

theorem dependencies_bare (node : Node) : program.bare.dependencies node = program.dependencies node := by
  simp only [dependencies, children_bare]
  rfl

/-- What is asked of the operation of a node is asked of its operation without a declared set. -/
theorem alike_op {next other : Op → Report} (node : Node) (each : ∀ op : Op, (next op.bare).Alike (other op)) :
    Alike (program.bare.op node >>= next) (program.op node >>= other) := by
  rw [op_bare, bind_assoc]
  exact alike_bind fun op _ => each op

/-! ### Single nodes -/

theorem portReport_bare (node : Node) (op : Op) :
    (program.bare.portReport node op.bare).Alike (program.portReport node op) := by
  refine alike_forEach fun direction _ => alike_bind fun found _ => ?_
  simp only [Op.portCount_bare]
  split
  · exact alike_refl _
  · exact alike_bare (.shape (.portTotal op _ direction found))

theorem parentReport_bare (node : Node) (op : Op) :
    (program.bare.parentReport node op.bare).Alike (program.parentReport node op) := by
  rw [parentReport, parentReport, parent?_bare]
  refine alike_bind fun parent _ => ?_
  cases parent with
  | none => exact alike_refl _
  | some parent =>
    refine alike_op parent fun container => ?_
    simp only [Op.childRules_bare, Op.opTag_bare]
    split
    · exact alike_refl _
    · exact alike_bare (.shape (.childClass op container))

theorem firstChildReport_bare (node : Node) (op : Op) (first : Node) :
    (program.bare.firstChildReport node op.bare first).Alike (program.firstChildReport node op first) := by
  refine alike_op first fun found => ?_
  simp only [Op.childRules_bare, Op.opTag_bare]
  split
  · exact alike_refl _
  · exact alike_bare (.shape (.firstChild op found.opTag))

theorem secondChildReport_bare (node : Node) (op : Op) (second : Option Node) :
    (program.bare.secondChildReport node op.bare second).Alike (program.secondChildReport node op second) := by
  cases second with
  | none =>
    simp only [secondChildReport, Op.childRules_bare]
    split
    · exact alike_refl _
    · exact alike_bare (.shape (.lacksSecond op))
  | some second =>
    refine alike_op second fun found => ?_
    simp only [Op.childRules_bare, Op.opTag_bare]
    split
    · exact alike_refl _
    · exact alike_bare (.shape (.secondChild op found.opTag))

theorem boundaryReport_bare (op : Op) (children : List Node) :
    (program.bare.boundaryReport op.bare children).Alike (program.boundaryReport op children) := by
  rw [boundaryReport, boundaryReport]
  have same := op.inner?_bare
  cases inner : op.inner? with
  | none =>
    rw [inner, Option.map_none, Option.map_eq_none_iff] at same
    rw [same]
    exact alike_refl _
  | some signature =>
    -- only the rows of the signature are looked at, and these are the same
    rw [inner, Option.map_some, Option.map_eq_some_iff] at same
    obtain ⟨other, found, rows⟩ := same
    rw [Prod.mk.injEq] at rows
    rw [found]
    refine Alike.also (Alike.also ?_ ?_) ?_
    · refine alike_forEach fun child _ => alike_op child fun held => ?_
      cases held with
      | input types =>
        dsimp only [Op.bare]
        rw [rows.1]
        split
        · exact alike_refl _
        · exact alike_bare (.mismatch (.boundary .input op types signature.input))
      | _ => exact alike_refl _
    · refine alike_forEach fun child _ => alike_op child fun held => ?_
      cases held with
      | output types =>
        dsimp only [Op.bare]
        rw [rows.2]
        split
        · exact alike_refl _
        · exact alike_bare (.mismatch (.boundary .output op types signature.output))
      | _ => exact alike_refl _
    · refine alike_forEach fun child _ => alike_op child fun held => ?_
      cases held with
      | input types | output types => exact alike_bare (.shape (.strayBoundary op))
      | _ => exact alike_refl _

theorem acyclicReport_bare (node : Node) (op : Op) :
    (program.bare.acyclicReport node op.bare).Alike (program.acyclicReport node op) := by
  rw [acyclicReport, acyclicReport, dependencies_bare]
  refine alike_bind fun dependencies _ => ?_
  split
  · exact alike_bare (.shape (.regionCycle op))
  · exact alike_refl _

/-! ### Regions of control -/

theorem caseReport_bare (sumRows : List Row) (otherInputs outputs : Row) (child : Node) (index : Nat) :
    (program.bare.caseReport sumRows otherInputs outputs child index).Alike
      (program.caseReport sumRows otherInputs outputs child index) := by
  refine alike_op child fun held => ?_
  cases held with
  | branch caseInputs caseOutputs delta =>
    dsimp only [Op.bare]
    cases Op.caseSignature? sumRows otherInputs outputs index with
    | none => exact alike_refl _
    | some expected =>
      dsimp only
      split
      · exact alike_refl _
      · exact alike_single rfl rfl
  | _ => exact alike_refl _

theorem casesReport_bare (node : Node) (sumRows : List Row) (otherInputs outputs : Row) (children : List Node) :
    (program.bare.casesReport node sumRows otherInputs outputs children).Alike
      (program.casesReport node sumRows otherInputs outputs children) :=
  (alike_refl _).also (alike_forEach fun (child, index) _ => caseReport_bare sumRows otherInputs outputs child index)

theorem blockInputs?_bare (op : Op) : blockInputs? op.bare = blockInputs? op := by
  cases op <;> rfl

theorem variantReport_bare (block : Node) (sumRows : List Row) (otherOutputs : Row) (index : Nat) :
    (program.bare.variantReport block sumRows otherOutputs index).Alike
      (program.variantReport block sumRows otherOutputs index) := by
  rw [variantReport, variantReport, portEdges_bare]
  refine alike_bind fun edges _ => ?_
  dsimp only
  cases Op.successorInput? sumRows otherOutputs index with
  | none => exact alike_refl _
  | some expected =>
    refine (alike_refl _).also (alike_forEach fun edge _ => alike_op edge.target.node fun successor => ?_)
    rw [blockInputs?_bare]
    exact alike_refl _

theorem blockReport_bare (child : Node) : (program.bare.blockReport child).Alike (program.blockReport child) := by
  refine alike_op child fun held => ?_
  cases held with
  | block inputs sumRows otherOutputs delta =>
    exact alike_bind fun count _ => alike_forEach fun index _ => variantReport_bare child sumRows otherOutputs index
  | _ => exact alike_refl _

theorem entryReport_bare (inputs : Row) (child : Node) :
    (program.bare.entryReport inputs child).Alike (program.entryReport inputs child) := by
  refine alike_op child fun held => ?_
  cases held <;> exact alike_refl _

theorem exits_bare (children : List Node) : program.bare.exits children = program.exits children := by
  simp only [exits, op_bare, bind_assoc, Outcome.ok_bind]
  congr 2
  funext child
  congr 1
  funext held
  cases held <;> rfl

theorem controlReport_bare (node : Node) (inputs outputs : Row) (children : List Node) :
    (program.bare.controlReport node inputs outputs children).Alike
      (program.controlReport node inputs outputs children) := by
  have entry : (Report.forEach (children.take 1) (program.bare.entryReport inputs)).Alike
      (Report.forEach (children.take 1) (program.entryReport inputs)) :=
    alike_forEach fun child _ => entryReport_bare inputs child
  cases found : program.exits children with
  | ok exits =>
    rw [controlReport_of_exits found, controlReport_of_exits ((exits_bare children).trans found)]
    exact entry.also ((alike_refl _).also ((alike_refl _).also (alike_forEach fun child _ => blockReport_bare child)))
  | error error =>
    rw [controlReport, controlReport, exits_bare, found]
    exact entry.bind fun _ _ _ => alike_refl _

theorem kindReport_bare (node : Node) (op : Op) (children : List Node) :
    (program.bare.kindReport node op.bare children).Alike (program.kindReport node op children) := by
  cases op with
  | conditional sumRows otherInputs outputs => exact casesReport_bare node sumRows otherInputs outputs children
  | cfg inputs outputs => exact controlReport_bare node inputs outputs children
  | _ => exact alike_refl _

/-! ### Nodes with their children -/

theorem childrenReport_bare (node : Node) (op : Op) :
    (program.bare.childrenReport node op.bare).Alike (program.childrenReport node op) := by
  have asked := program.children_bare node
  cases children : program.children node with
  | error error =>
    rw [childrenReport, childrenReport, asked, children]
    exact alike_refl _
  | ok found =>
    rw [children] at asked
    cases found with
    | nil =>
      rw [childrenReport, childrenReport, asked, children]
      simp only [Outcome.ok_bind, Op.childRules_bare]
      split
      · exact alike_bare (.shape (.childless op))
      · exact alike_refl _
    | cons first rest =>
      by_cases leaf : op.childRules.allowed = .none
      · rw [childrenReport, childrenReport, asked, children]
        simp only [Outcome.ok_bind, Op.childRules_bare, leaf, if_true]
        exact alike_refl _
      · have inner : op.bare.childRules.allowed ≠ .none := by rwa [Op.childRules_bare]
        rw [childrenReport_of_cons asked inner, childrenReport_of_cons children leaf]
        simp only [Op.childRules_bare]
        exact (firstChildReport_bare node op first).also ((secondChildReport_bare node op rest.head?).also
          ((boundaryReport_bare op (first :: rest)).when.also
            ((acyclicReport_bare node op).when.also (kindReport_bare node op (first :: rest)))))

theorem scopeOf_bare (node : Node) : program.bare.scopeOf node = program.scopeOf node := by
  have nearest : ∀ above : List Node, scopeOf.nearest program.bare above = scopeOf.nearest program above := by
    intro above
    induction above with
    | nil => rfl
    | cons ancestor rest ih =>
      rw [scopeOf.nearest, scopeOf.nearest, op_bare, bind_assoc]
      congr 1
      funext held
      cases held <;> first | rfl | exact ih
  exact nearest _

theorem typeReport_bare (registry : Registry) (node : Node) (op : Op) :
    program.bare.typeReport registry node op.bare = program.typeReport registry node op := by
  rw [typeReport, typeReport, scopeOf_bare, Op.portTypes_bare]

theorem nodeReport_bare (registry : Registry) (node : Node) :
    (program.bare.nodeReport registry node).Alike (program.nodeReport registry node) := by
  have asked := program.op_bare node
  cases found : program.op node with
  | error error =>
    rw [nodeReport, nodeReport, asked, found]
    exact alike_refl _
  | ok op =>
    rw [found, Outcome.ok_bind] at asked
    rw [nodeReport_of_op asked, nodeReport_of_op found, Op.checkOp_bare, typeReport_bare]
    exact (portReport_bare node op).also ((parentReport_bare node op).also
      ((childrenReport_bare node op).also (alike_refl _)))

/-! ### Edges -/

theorem portKind?_bare (port : Port) : program.bare.portKind? port = program.portKind? port := by
  simp only [portKind?, op_bare, bind_assoc, Outcome.ok_bind, Op.portKind?_bare]

theorem isLocal_bare (edge : Edge) (type : Option PortType) :
    program.bare.isLocal edge type = program.isLocal edge type := by
  simp only [isLocal, parent?_bare, op_bare, bind_assoc, Outcome.ok_bind]
  congr 1
  funext parent
  congr 1
  funext targetParent
  cases parent with
  | none => rfl
  | some parent =>
    cases edge.kind with
    | controlFlow =>
      dsimp only
      split
      · congr 1
        funext held
        cases held <;> rfl
      · rfl
    | _ => rfl

theorem edgesReport_bare (node : Node) : program.bare.edgesReport node = program.edgesReport node := by
  simp only [edgesReport, graph_bare, contains_bare, edgeReport, portKind?_bare, isLocal_bare]

theorem linkReport_bare (node : Node) (op : Op) (direction : Direction) (offset : Nat) :
    (program.bare.linkReport node op.bare direction offset).Alike (program.linkReport node op direction offset) := by
  rw [linkReport, linkReport, Op.portKind?_bare]
  cases op.portKind? direction offset with
  | none => exact alike_refl _
  | some kind =>
    dsimp only
    split
    · exact alike_refl _
    · rw [portEdges_bare]
      refine alike_bind fun edges _ => ?_
      cases direction with
      | incoming =>
        dsimp only
        split
        · exact alike_refl _
        · exact alike_bare (.shape (.inputLinks kind.kind offset op edges.length))
      | outgoing =>
        dsimp only
        split
        · generalize edges.length = count
          match count with
          | 0 => exact alike_bare (.linearity (.neverConsumed offset op kind.type))
          | 1 => exact alike_refl _
          | count + 2 => exact alike_bare (.linearity (.usedTimes offset op kind.type (count + 2)))
        · exact alike_refl _

theorem linksReport_bare (node : Node) : (program.bare.linksReport node).Alike (program.linksReport node) := by
  rw [linksReport, linksReport]
  change (if node = program.root then Report.clean else _).Alike _
  split
  · exact alike_refl _
  · refine alike_op node fun op => alike_forEach fun direction _ => alike_bind fun count _ => ?_
    rw [Op.portCount_bare]
    exact alike_forEach fun offset _ => linkReport_bare node op direction offset

/-! ### The whole program -/

theorem rootReport_bare : program.bare.rootReport = program.rootReport := by
  simp only [rootReport, root_bare, parent?_bare, graph_bare]

theorem detachedReport_bare : program.bare.detachedReport = program.detachedReport := by
  simp only [detachedReport, graph_bare, root_bare, parent?_bare]

/-- Declared sets occur in no report but that of the requirements. -/
theorem validate_bare (program : Program) (registry : Registry) :
    (program.bare.validate registry false).Alike (program.validate registry false) := by
  have asked : program.bare.descendants program.bare.root = program.descendants program.root :=
    descendants_bare program.root
  cases walked : program.descendants program.root with
  | error error =>
    rw [validate, validate, asked, walked, rootReport_bare, detachedReport_bare]
    simp only [Outcome.error_bind]
    exact alike_refl _
  | ok tree =>
    rw [walked] at asked
    rw [validate_of_tree asked, validate_of_tree walked, rootReport_bare, detachedReport_bare]
    simp only [when, Bool.false_eq_true, if_false]
    refine (alike_refl _).also ((alike_refl _).also ((alike_refl _).also (.also ?_ (.also ?_ (alike_refl _)))))
    · exact alike_forEach fun node _ => nodeReport_bare registry node
    · refine alike_forEach fun node _ => ?_
      rw [edgesReport_bare]
      exact (alike_refl _).also (linksReport_bare node)

end Program

end NestedFlow
