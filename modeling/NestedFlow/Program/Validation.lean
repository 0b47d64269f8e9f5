import NestedFlow.Config
import NestedFlow.Extension
import NestedFlow.Program.Requirements

/-! Validation of whole programs.

A report lists every violation in a fixed order: damaged edges, the root, nodes without a parent, then node by node
its ports, its place under its parent, its children, its operation and its types, then node by node its outgoing
edges and how its ports are linked, and last the extension requirements. Validation changes nothing. It breaks down
only if a rule of an extension does, or if the program was changed from outside.
-/

set_option autoImplicit false

namespace NestedFlow

abbrev Report := Outcome (List Error)

namespace Report

def clean : Report := pure []

/-- A single violation at a node. -/
def single (node : Node) (fault : Fault) : Report := pure [.onNode fault node]

/-- The reports of some items, one after another. -/
def forEach {α : Type} (items : List α) (check : α → Report) : Report := do
  let parts ← items.mapM check
  pure parts.flatten

def also (first second : Report) : Report := do
  let errors ← first
  let others ← second
  pure (errors ++ others)

/-- The failure of a check is a violation at a node; a breakdown is not. -/
def ofCheck (node : Node) (check : Outcome Unit) : Report :=
  match check with
  | .ok _ => clean
  | .error error => if error.fault.isBreakdown then .error error else pure [error.attach node]

end Report

namespace Program

/-! ### The whole program -/

def integrityReport (program : Program) : Report := do
  let problems ← program.graph.edgeProblems
  pure (problems.map fun problem => .bare (.shape (.edgeProblem problem)))

def rootReport (program : Program) : Report := do
  let parent ← program.parent? program.root
  let edges ← program.graph.edges program.root none none
  pure ((if parent.isSome then [.onNode (.shape .rootParent) program.root] else []) ++
    if edges.isEmpty then [] else [.onNode (.shape .rootEdges) program.root])

def detachedReport (program : Program) : Report :=
  Report.forEach program.graph.nodes fun node => do
    if node = program.root then pure []
    else
      match ← program.parent? node with
      | none => Report.single node (.shape .noParent)
      | some _ => Report.clean

/-! ### Single nodes -/

def portReport (program : Program) (node : Node) (op : Op) : Report :=
  Report.forEach Direction.both fun direction => do
    let found ← program.graph.numPorts node direction
    let expected := op.portCount direction
    if expected = found then Report.clean
    else Report.single node (.shape (.portTotal op expected direction found))

def parentReport (program : Program) (node : Node) (op : Op) : Report := do
  match ← program.parent? node with
  | none => Report.clean
  | some parent =>
    let container ← program.op parent
    if container.childRules.allowed.isSuperset op.opTag then Report.clean
    else Report.single node (.shape (.childClass op container))

def firstChildReport (program : Program) (node : Node) (op : Op) (first : Node) : Report := do
  let found ← program.op first
  if op.childRules.first.isSuperset found.opTag then Report.clean
  else Report.single node (.shape (.firstChild op found.opTag))

def secondChildReport (program : Program) (node : Node) (op : Op) : Option Node → Report
  | some second => do
    let found ← program.op second
    if op.childRules.second.isSuperset found.opTag then Report.clean
    else Report.single node (.shape (.secondChild op found.opTag))
  | none => if op.childRules.second = .any then Report.clean else Report.single node (.shape (.lacksSecond op))

/-- The input of a region has the types of the region. -/
def inputReport (program : Program) (op : Op) (inner : Signature) (child : Node) : Report := do
  match ← program.op child with
  | .input types =>
    if types = inner.input then Report.clean
    else Report.single child (.mismatch (.boundary .input op types inner.input))
  | _ => Report.clean

/-- The output of a region has the types of the region. -/
def outputReport (program : Program) (op : Op) (inner : Signature) (child : Node) : Report := do
  match ← program.op child with
  | .output types =>
    if types = inner.output then Report.clean
    else Report.single child (.mismatch (.boundary .output op types inner.output))
  | _ => Report.clean

/-- There is one input and one output. -/
def strayReport (program : Program) (op : Op) (child : Node) : Report := do
  match ← program.op child with
  | .input _ | .output _ => Report.single child (.shape (.strayBoundary op))
  | _ => Report.clean

def boundaryReport (program : Program) (op : Op) (children : List Node) : Report :=
  match op.inner? with
  | none => Report.clean
  | some inner =>
    ((Report.forEach (children.take 1) (program.inputReport op inner)).also
      (Report.forEach ((children.drop 1).take 1) (program.outputReport op inner))).also
      (Report.forEach (children.drop 2) (program.strayReport op))

def acyclicReport (program : Program) (node : Node) (op : Op) : Report := do
  let dependencies ← program.dependencies node
  if dependencies.hasCycle then Report.single node (.shape (.regionCycle op)) else Report.clean

def caseReport (program : Program) (sumRows : List Row) (otherInputs outputs : Row) (child : Node) (index : Nat) :
    Report := do
  match ← program.op child with
  | .branch caseInputs caseOutputs delta =>
    match Op.caseSignature? sumRows otherInputs outputs index with
    | none => fail (.breakdown .position)
    | some expected =>
      if caseInputs = expected.input ∧ caseOutputs = expected.output then Report.clean
      else
        Report.single child
          (.mismatch (.caseSignature index caseInputs caseOutputs expected ⟨caseInputs, caseOutputs, delta.getD ∅⟩))
  | _ => Report.clean

/-- One case for every variant. -/
def casesReport (program : Program) (node : Node) (sumRows : List Row) (otherInputs outputs : Row)
    (children : List Node) : Report :=
  (if children.length = sumRows.length then Report.clean
    else Report.single node (.shape (.caseCount children.length sumRows.length))).also
    (Report.forEach (children.take sumRows.length).zipIdx fun (child, index) =>
      program.caseReport sumRows otherInputs outputs child index)

/-- The values that a block or exit of a control-flow region takes. -/
def blockInputs? : Op → Option Row
  | .block inputs _ _ _ => some inputs
  | .exit outputs => some outputs
  | _ => none

def successorReport (program : Program) (block : Node) (index : Nat) (expected : Row) (edge : Edge) : Report := do
  let successor ← program.op edge.target.node
  match blockInputs? successor with
  | none => Report.clean
  | some found =>
    if found = expected then Report.clean
    else Report.single block (.mismatch (.successor edge.target.node index found expected))

/-- A variant of a block leads to one successor, which takes what the block gives. -/
def variantReport (program : Program) (block : Node) (sumRows : List Row) (otherOutputs : Row) (index : Nat) :
    Report := do
  let edges ← program.portEdges (block.outputPort index)
  let control := edges.filter fun edge => edge.kind == .controlFlow
  let count := match control.length with
    | 0 => [.onNode (.shape (.noSuccessor index sumRows.length)) block]
    | 1 => []
    | several => [.onNode (.shape (.manySuccessors index several)) block]
  match Op.successorInput? sumRows otherOutputs index with
  | none => fail (.breakdown .position)
  | some expected => Report.also (pure count) (Report.forEach control (program.successorReport block index expected))

def blockReport (program : Program) (child : Node) : Report := do
  match ← program.op child with
  | .block _ sumRows otherOutputs _ =>
    let count ← program.graph.numPorts child .outgoing
    Report.forEach (List.range (min sumRows.length count)) (program.variantReport child sumRows otherOutputs)
  | _ => Report.clean

def entryReport (program : Program) (inputs : Row) (child : Node) : Report := do
  match ← program.op child with
  | .block entryInputs _ _ _ =>
    if entryInputs = inputs then Report.clean
    else Report.single child (.mismatch (.entryInputs entryInputs inputs))
  | _ => Report.clean

def exitReport (outputs : Row) (exit : Node × Row) : Report :=
  if exit.2 = outputs then Report.clean else Report.single exit.1 (.mismatch (.exitOutputs exit.2 outputs))

/-- The exits among some children, with the values that they take. -/
def exits (program : Program) (children : List Node) : Outcome (List (Node × Row)) := do
  let found ← children.mapM fun child => do
    match ← program.op child with
    | .exit outputs => pure [(child, outputs)]
    | _ => pure []
  pure found.flatten

/-- The entry takes the inputs of the region, there is an exit, and exits take its outputs. -/
def controlReport (program : Program) (node : Node) (inputs outputs : Row) (children : List Node) : Report := do
  let entry ← Report.forEach (children.take 1) (program.entryReport inputs)
  let exits ← program.exits children
  let absent ← if exits.isEmpty then Report.single node (.shape .noExit) else Report.clean
  let ends ← Report.forEach exits (exitReport outputs)
  let blocks ← Report.forEach children program.blockReport
  pure (entry ++ absent ++ ends ++ blocks)

def kindReport (program : Program) (node : Node) (op : Op) (children : List Node) : Report :=
  match op with
  | .conditional sumRows otherInputs outputs _ => program.casesReport node sumRows otherInputs outputs children
  | .cfg inputs outputs _ => program.controlReport node inputs outputs children
  | _ => Report.clean

/-- Children where none are allowed are reported one by one by `parentReport`. -/
def childrenReport (program : Program) (node : Node) (op : Op) : Report := do
  let rules := op.childRules
  match ← program.children node with
  | [] => if rules.nonempty then Report.single node (.shape (.childless op)) else Report.clean
  | first :: rest =>
    if rules.allowed = .none then Report.clean
    else
      let firstErrors ← program.firstChildReport node op first
      let secondErrors ← program.secondChildReport node op rest.head?
      let boundary ←
        if rules.first = .input then program.boundaryReport op (first :: rest) else Report.clean
      let cycle ← if rules.acyclic then program.acyclicReport node op else Report.clean
      let further ← program.kindReport node op (first :: rest)
      pure (firstErrors ++ secondErrors ++ boundary ++ cycle ++ further)

/-- A recorded signature is the one that the rule gives, and a constant inhabits its type. -/
def checkOp (registry : Registry) (op : Op) : Outcome Unit :=
  match op with
  | .extension extension name args cached => do
    let definition ← registry.getOp extension name
    let computed ← definition.computeSignature args
    if computed = cached then pure () else fail (.signature (.staleSignature cached op computed))
  | .call function typeArgs cached | .loadFunction function typeArgs cached => do
    let computed ← function.instantiate typeArgs
    if computed = cached then pure () else fail (.signature (.staleInstantiation cached op computed))
  | .const value typ => value.check typ
  | _ => pure ()

/-- The parameters of the nearest function around a node. -/
def scopeOf (program : Program) (node : Node) : Outcome (List Param) :=
  let rec nearest : List Node → Outcome (List Param)
    | [] => pure []
    | ancestor :: rest => do
      match ← program.op ancestor with
      | .funcDefn _ signature => pure signature.params
      | _ => nearest rest
  nearest (program.hierarchy.ancestors node)

/-- The types that an operation mentions at its ports, and those of an exit. -/
def portTypes (op : Op) : List PortType :=
  (Direction.both.flatMap fun direction =>
    (List.range (op.portCount direction)).filterMap fun (offset : Nat) =>
      (op.portKind? direction offset).bind fun kind => kind.type) ++
  match op with
  | .exit outputs => outputs.map PortType.value
  | _ => []

def checkPortType (registry : Registry) (scope : List Param) : PortType → Outcome Unit
  | .value ty => ty.validate registry scope
  | .scheme scheme => scheme.validate registry

def typeReport (program : Program) (registry : Registry) (node : Node) (op : Op) : Report := do
  let scope ← program.scopeOf node
  Report.forEach (portTypes op) fun type => Report.ofCheck node (checkPortType registry scope type)

def nodeReport (program : Program) (registry : Registry) (node : Node) : Report := do
  let op ← program.op node
  let ports ← program.portReport node op
  let parent ← program.parentReport node op
  let children ← program.childrenReport node op
  let own ← Report.ofCheck node (checkOp registry op)
  let types ← program.typeReport registry node op
  pure (ports ++ parent ++ children ++ own ++ types)

/-! ### Edges -/

/-- Whether an edge stays where its kind allows. Value and order edges join siblings; a copyable value may also go
inside a sibling, and so may what is static. Control stays within one region. -/
def isLocal (program : Program) (edge : Edge) (type : Option PortType) : Outcome Bool := do
  let target := edge.target.node
  let parent ← program.parent? edge.source.node
  let targetParent ← program.parent? target
  match parent with
  | none => pure false
  | some parent =>
    match edge.kind with
    | .value =>
      pure (targetParent = some parent ∨
        (type.any fun type => !type.isLinear) ∧ program.hierarchy.isAncestor parent target)
    | .order => pure (targetParent = some parent)
    | .static => pure (program.hierarchy.isAncestor parent target)
    | .controlFlow =>
      if targetParent = some parent then
        match ← program.op parent with
        | .cfg _ _ _ => pure true
        | _ => pure false
      else pure false

def localFault (edge : Edge) : StructureFault :=
  match edge.kind with
  | .value | .order => .notSiblings edge
  | .static => .staticScope edge
  | .controlFlow => .controlScope edge

def edgeReport (program : Program) (edge : Edge) : Report := do
  let source := edge.source.node
  let sourceKind ← program.portKind? edge.source
  let targetKind ← program.portKind? edge.target
  match sourceKind, targetKind with
  | some start, some stop =>
    if start.kind ≠ stop.kind ∨ stop.kind ≠ edge.kind then
      Report.single source (.shape (.edgeKinds edge start.kind stop.kind))
    else
      let types ←
        if edge.kind.isTyped ∧ start.type ≠ stop.type then
          Report.single edge.target.node (.mismatch (.edge edge start.type stop.type))
        else Report.clean
      let inScope ← program.isLocal edge start.type
      let place ← if inScope then Report.clean else Report.single source (.shape (localFault edge))
      pure (types ++ place)
  | _, _ => Report.single source (.shape (.edgeWithoutPort edge))

def edgesReport (program : Program) (node : Node) : Report := do
  let edges ← program.graph.edges node (some .outgoing) none
  Report.forEach edges fun edge =>
    if program.contains edge.target.node then program.edgeReport edge else Report.clean

/-- Typed inputs have one edge each, and linear outputs too. -/
def linkReport (program : Program) (node : Node) (op : Op) (direction : Direction) (offset : Nat) : Report := do
  match op.portKind? direction offset with
  | none => Report.clean
  | some kind =>
    if !kind.kind.isTyped then Report.clean
    else
      let edges ← program.portEdges ⟨node, direction, offset⟩
      let count := edges.length
      match direction with
      | .incoming =>
        if count = 1 then Report.clean
        else Report.single node (.shape (.inputLinks kind.kind offset op count))
      | .outgoing =>
        if kind.kind = .value ∧ kind.type.any PortType.isLinear then
          match count with
          | 0 => Report.single node (.linearity (.neverConsumed offset op kind.type))
          | 1 => Report.clean
          | several => Report.single node (.linearity (.usedTimes offset op kind.type several))
        else Report.clean

def linksReport (program : Program) (node : Node) : Report :=
  if node = program.root then Report.clean
  else do
    let op ← program.op node
    Report.forEach Direction.both fun direction => do
      let count ← program.graph.numPorts node direction
      Report.forEach (List.range (min (op.portCount direction) count)) (program.linkReport node op direction)

/-! ### Reports -/

def requirementsReport (program : Program) : Report := do
  let found ← program.requirements
  pure found.errors

/-- Every violation in a program. -/
def validate (program : Program) (registry : Registry) (requirements : Bool) : Report := do
  let integrity ← program.integrityReport
  let root ← program.rootReport
  let detached ← program.detachedReport
  let tree ← program.descendants program.root
  let nodes ← Report.forEach tree (program.nodeReport registry)
  let edges ← Report.forEach tree fun node => (program.edgesReport node).also (program.linksReport node)
  let declared ← if requirements then program.requirementsReport else Report.clean
  pure (integrity ++ root ++ detached ++ nodes ++ edges ++ declared)

/-- The first violation as a failure. -/
def check (program : Program) (registry : Registry) (requirements : Bool) : Outcome Unit := do
  match ← program.validate registry requirements with
  | [] => pure ()
  | error :: _ => .error error

/-- Infer requirements as far as they can be, and report the sets that are too small. -/
def inferLeniently (config : Config) : Change Program (List Error) := fun program =>
  match inferExtensions program with
  | .ok _ new => .ok [] new
  | .error error new =>
    match error.fault with
    | .missingExtensions _ =>
      if config.requirements then .ok [] new
      else
        match new.requirementsReport with
        | .ok errors => .ok errors new
        | .error error => .error error new
    | _ => .error error new

/-- Infer requirements if the settings say so, then validate. Sets that are too small are reported in any case. -/
def finalize (registry : Registry) (config : Config) : Change Program (List Error) := do
  let late ← if config.inference then inferLeniently config else pure []
  let errors ← Change.ask fun program => program.validate registry config.requirements
  pure (errors ++ late)

end Program

end NestedFlow
