import NestedFlow.Dependency
import NestedFlow.Hierarchy
import NestedFlow.PortGraph
import NestedFlow.Substitution

/-! Programs: a port graph, a containment tree and an operation for every node.

Edges may leave a region and nodes may be detached from the tree while a program is edited; whether the whole is
well formed is only settled by validation. Every change checks its arguments first.
-/

set_option autoImplicit false

namespace NestedFlow

/-- A call of a polymorphic function at given arguments. -/
def Op.callAt (function : Scheme) (typeArgs : List Arg) : Outcome Op := do
  let signature ← function.instantiate typeArgs
  pure (.call function typeArgs signature)

/-- A polymorphic function at given arguments as a value. -/
def Op.loadFunctionAt (function : Scheme) (typeArgs : List Arg) : Outcome Op := do
  let signature ← function.instantiate typeArgs
  pure (.loadFunction function typeArgs signature)

/-- The operation that builds a variant of a sum. -/
def Op.tagAt (tag : Int) (variants : List Row) : Outcome Op :=
  if inRange : 0 ≤ tag ∧ tag < variants.length then
    pure (.tag variants ⟨tag.toNat, by omega⟩)
  else fail (.signature (.tagRange tag variants.length))

/-- The operation with its requirements declared. -/
def Op.declare (op : Op) (delta : ExtensionSet) : Outcome Op :=
  match op.withDelta? delta with
  | some declared => pure declared
  | none => fail (.signature (.noRequirements op))

structure Program where
  graph : PortGraph
  hierarchy : Hierarchy
  ops : Table Node Op
  metadata : Table Node (Table String Json)
  root : Node

namespace Program

/-- The program of a single node. -/
def ofRoot (op : Op) : Program :=
  let inputs := List.replicate (op.portCount .incoming) []
  let outputs := List.replicate (op.portCount .outgoing) []
  let root : Node := ⟨0, 0⟩
  ⟨⟨[⟨0, true, inputs, outputs⟩], [], ∅, 0, 1⟩, .empty, (∅ : Table Node Op).insert root op, ∅, root⟩

/-! ### Questions -/

def contains (program : Program) (node : Node) : Bool :=
  program.ops.contains node && program.graph.contains node

def checkNode (program : Program) (node : Node) : Outcome Unit :=
  if program.contains node then pure () else failAt node (.shape (.foreignNode node))

def checkNotRoot (program : Program) (node : Node) : Outcome Unit :=
  if node = program.root then failAt node (.shape .fixedRoot) else pure ()

/-- The entry for a node in the table of operations. -/
def entry (program : Program) (node : Node) : Outcome Op := require (program.ops.get? node) .key

def op (program : Program) (node : Node) : Outcome Op := do
  program.checkNode node
  program.entry node

def parent? (program : Program) (node : Node) : Outcome (Option Node) := do
  program.checkNode node
  pure (program.hierarchy.parent? node)

def children (program : Program) (node : Node) : Outcome (List Node) := do
  program.checkNode node
  pure (program.hierarchy.children node)

def descendants (program : Program) (node : Node) : Outcome (List Node) := do
  program.checkNode node
  pure (program.hierarchy.descendants node)

/-- The operations of the tree under the root, parents before children. -/
def treeOps (program : Program) : Outcome (List Op) := do
  let tree ← program.descendants program.root
  tree.mapM program.op

def portKind? (program : Program) (port : Port) : Outcome (Option PortKind) := do
  let op ← program.op port.node
  pure (op.portKind? port.direction port.offset)

def portEdges (program : Program) (port : Port) : Outcome (List Edge) := do
  program.checkNode port.node
  program.graph.portEdges port

def linkedPorts (program : Program) (port : Port) : Outcome (List Port) := do
  program.checkNode port.node
  program.graph.linkedPorts port

/-- The first two children of a region, if they are its input and its output. -/
def boundary? (program : Program) (region : Node) : Outcome (Option (Node × Node)) := do
  match ← program.children region with
  | input :: output :: _ =>
    match ← program.entry input with
    | .input _ =>
      match ← program.entry output with
      | .output _ => pure (some (input, output))
      | _ => pure none
    | _ => pure none
  | _ => pure none

/-- The children of a node, and the value and order edges between them. -/
def dependencies (program : Program) (parent : Node) : Outcome (DependencyGraph Node) := do
  let children ← program.children parent
  let pairs ← children.mapM fun child => do
    let edges ← program.graph.edges child (some .outgoing) none
    pure (edges.filterMap fun edge =>
      if (edge.kind = .value ∨ edge.kind = .order) ∧ edge.target.node ∈ children then some (child, edge.target.node)
      else none)
  pure (.ofEdges pairs.flatten children)

/-- The children of a node in an order along their value and order edges. -/
def orderedChildren (program : Program) (parent : Node) : Outcome (List Node) := do
  let dependencies ← program.dependencies parent
  match dependencies.topologicalOrder with
  | .ok order => pure order
  | .error _ => failAt parent (.shape (.dependencyCycle parent))

def metadataOf (program : Program) (node : Node) : Outcome (Table String Json) := do
  program.checkNode node
  pure (program.metadata.getD node ∅)

/-! ### Changes -/

def onGraph {α : Type} (change : Change PortGraph α) : Change Program α :=
  change.within (fun program => program.graph) fun program graph => { program with graph := graph }

def onHierarchy {α : Type} (change : Change Hierarchy α) : Change Program α :=
  change.within (fun program => program.hierarchy) fun program hierarchy => { program with hierarchy := hierarchy }

/-- Add a node without a parent. -/
def addNode (op : Op) : Change Program Node := do
  let node ← onGraph (PortGraph.addNode (op.portCount .incoming) (op.portCount .outgoing))
  modify fun program => { program with ops := program.ops.insert node op }
  pure node

/-- Add a node as the last child of a parent. -/
def addChild (parent : Node) (op : Op) : Change Program Node := do
  Change.ask fun program => program.checkNode parent
  let node ← addNode op
  onHierarchy (Hierarchy.pushChild node parent)
  pure node

/-- Add a node immediately before a sibling. -/
def addBefore (sibling : Node) (op : Op) : Change Program Node := do
  Change.ask fun program => program.checkNode sibling
  if ((← get).hierarchy.parent? sibling).isNone then
    throw (.onNode (.shape (.insertBeforeTop sibling)) sibling)
  let node ← addNode op
  onHierarchy (Hierarchy.insertBefore node sibling)
  pure node

/-- Attach a node that has no parent as the last child of a parent. -/
def setParent (node parent : Node) : Change Program Unit := do
  Change.ask fun program => program.checkNode node
  Change.ask fun program => program.checkNode parent
  Change.ask fun program => program.checkNotRoot node
  onHierarchy (Hierarchy.pushChild node parent)

/-- Move a node, with everything below it, to just before a sibling. -/
def moveBefore (node sibling : Node) : Change Program Unit := do
  Change.ask fun program => program.checkNode node
  Change.ask fun program => program.checkNode sibling
  Change.ask fun program => program.checkNotRoot node
  match (← get).hierarchy.parent? sibling with
  | none => throw (.onNode (.shape (.moveBeforeTop sibling)) sibling)
  | some parent =>
    if node = sibling ∨ (← get).hierarchy.contains node parent then
      throw (.onNode (.shape (.moveCycle node sibling)) node)
    let _ ← onHierarchy (Hierarchy.detach node)
    onHierarchy (Hierarchy.insertBefore node sibling)

def detach (node : Node) : Change Program (Option Node) := do
  Change.ask fun program => program.checkNode node
  onHierarchy (Hierarchy.detach node)

/-- Replace the operation of a node, which gets the ports of the new one. Edges at the ports that stay are kept. -/
def replaceOp (node : Node) (op : Op) : Change Program Op := do
  Change.ask fun program => program.checkNode node
  onGraph (PortGraph.setNumPorts node (op.portCount .incoming) (op.portCount .outgoing))
  let old ← Change.ask fun program => program.entry node
  modify fun program => { program with ops := program.ops.insert node op }
  pure old

/-- Remove a node without children, and the edges at it. -/
def removeNode (node : Node) : Change Program Op := do
  Change.ask fun program => program.checkNode node
  Change.ask fun program => program.checkNotRoot node
  if (← get).hierarchy.hasChildren node then
    throw (.onNode (.shape (.removeParent node)) node)
  onHierarchy (Hierarchy.forget node)
  let _ ← onGraph (PortGraph.removeNode node)
  modify fun program => { program with metadata := program.metadata.erase node }
  let op ← Change.ask fun program => program.entry node
  modify fun program => { program with ops := program.ops.erase node }
  pure op

/-- Remove a node and everything below it, children first. -/
def removeSubtree (node : Node) : Change Program Unit := do
  Change.ask fun program => program.checkNode node
  Change.ask fun program => program.checkNotRoot node
  ((← get).hierarchy.descendants node).reverse.forM fun below => do
    let _ ← removeNode below

/-- The declared kind of a port that has to exist. -/
def existingPort (program : Program) (port : Port) : Outcome PortKind := do
  let op ← program.entry port.node
  match op.portKind? port.direction port.offset with
  | some kind => pure kind
  | none => failAt port.node (.shape (.noPort op port.direction port.offset))

/-- An edge may join two ports of one kind. Typed ports have equal types and take one edge as inputs; a linear output
feeds one edge. -/
def checkConnection (program : Program) (source target : Port) : Outcome EdgeKind := do
  program.checkNode source.node
  program.checkNode target.node
  let origin ← program.existingPort source
  let goal ← program.existingPort target
  if origin.kind ≠ goal.kind then
    failAt source.node (.shape (.kindsDiffer source origin.kind target goal.kind))
  else
    if origin.kind.isTyped then
      if origin.type ≠ goal.type then
        failAt target.node (.mismatch (.ports source target origin.type goal.type))
      let linked ← program.graph.portEdges target
      if !linked.isEmpty then failAt target.node (.shape (.inputLinked target))
    if origin.kind = .value ∧ origin.type.any PortType.isLinear then
      let driven ← program.graph.portEdges source
      if !driven.isEmpty then failAt source.node (.linearity (.alreadyDrives source origin.type))
    pure origin.kind

/-- Connect an output to an input; the kind of the edge is that of the ports. -/
def connect (source : Node) (sourceOffset : Int) (target : Node) (targetOffset : Int) : Change Program Edge := do
  let start := source.outputPort sourceOffset
  let stop := target.inputPort targetOffset
  let kind ← Change.ask fun program => program.checkConnection start stop
  onGraph (PortGraph.connect start stop kind)

/-- The offset of the order port of a node. -/
def orderPort (program : Program) (node : Node) (direction : Direction) : Outcome Nat := do
  let op ← program.entry node
  match op.orderPort? direction with
  | some offset => pure offset
  | none => failAt node (.shape (.noOrderPort op direction))

/-- Order one node before another. -/
def addOrder (source target : Node) : Change Program Edge := do
  Change.ask fun program => program.checkNode source
  Change.ask fun program => program.checkNode target
  let sourceOffset ← Change.ask fun program => program.orderPort source .outgoing
  let targetOffset ← Change.ask fun program => program.orderPort target .incoming
  connect source sourceOffset target targetOffset

def disconnect (edge : Int) : Change Program Edge := onGraph (PortGraph.disconnect edge)

def setMetadata (node : Node) (key : String) (value : Json) : Change Program Unit := do
  Change.ask fun program => program.checkNode node
  modify fun program =>
    { program with metadata := program.metadata.insert node ((program.metadata.getD node ∅).insert key value) }

end Program

end NestedFlow
