import NestedFlow.Program

/-! Convex subgraphs of the children of one node.

A subgraph holds every edge between its nodes. Its boundary is made of value ports: groups of inputs that are fed
from outside, and outputs that are consumed outside. Static edges may enter it, order edges may not cross it, and no
path leaves it and comes back.
-/

set_option autoImplicit false

namespace NestedFlow

structure Subgraph where
  nodes : List Node
  /-- The input ports of each input of the subgraph. -/
  inputs : List (List Port)
  outputs : List Port
  deriving DecidableEq

namespace Program

/-- The type of a value port. -/
def valueType (program : Program) (port : Port) : Outcome Ty := do
  match ← program.portKind? port with
  | some ⟨.value, some (.value ty)⟩ => pure ty
  | _ => failAt port.node (.boundary (.notValuePort port))

def edgeKind? (program : Program) (port : Port) : Outcome (Option EdgeKind) := do
  let kind ← program.portKind? port
  pure (kind.map PortKind.kind)

/-- The ports of a node, except static ones, that are linked to a node outside a set. -/
def crossing (program : Program) (members : List Node) (node : Node) (direction : Direction) : Outcome (List Port) := do
  let ports ← program.graph.ports node direction
  ports.filterM fun port => do
    if (← program.edgeKind? port) = some .static then pure false
    else
      let linked ← program.linkedPorts port
      pure (linked.any fun other => decide (other.node ∉ members))

/-- The nodes are children of one node. -/
def checkSiblings (program : Program) (nodes : List Node) : Outcome Unit :=
  match nodes with
  | [] => fail (.boundary .empty)
  | first :: _ => do
    let parents ← nodes.mapM program.parent?
    if none ∈ parents then failAt first (.boundary .parentless)
    else if parents.any fun parent => decide (parents.head? ≠ some parent) then
      failAt first (.boundary .manyParents)
    else pure ()

def checkNoOrder (program : Program) (port : Port) : Outcome Unit := do
  if (← program.edgeKind? port) = some .order then failAt port.node (.boundary (.orderPort port)) else pure ()

/-- An input port of the boundary belongs to the subgraph and is fed from outside. -/
def checkIncoming (program : Program) (members : List Node) (port : Port) : Outcome Unit :=
  if port.direction ≠ .incoming ∨ port.node ∉ members then
    failAt port.node (.boundary (.incomingPort port))
  else do
    let sources ← program.linkedPorts port
    if sources.any fun source => decide (source.node ∈ members) then
      failAt port.node (.boundary (.fedInside port))
    else pure ()

/-- The ports of one input have one type, and there is one port if the type is linear. -/
def checkGroup (program : Program) (members : List Node) (group : List Port) : Outcome Unit :=
  match group with
  | [] => fail (.boundary .unusedInput)
  | first :: rest => do
    group.forM (program.checkIncoming members)
    let type ← program.valueType first
    let types ← rest.mapM program.valueType
    if types.any fun other => decide (other ≠ type) then failAt first.node (.boundary .inputTypes)
    else if !rest.isEmpty && type.isLinear then failAt first.node (.boundary .linearInput)
    else pure ()

def checkOutgoing (members : List Node) (port : Port) : Outcome Unit :=
  if port.direction ≠ .outgoing ∨ port.node ∉ members then
    failAt port.node (.boundary (.outgoingPort port))
  else pure ()

def checkBoundary (program : Program) (subgraph : Subgraph) : Outcome Unit := do
  program.checkSiblings subgraph.nodes
  let incoming := subgraph.inputs.flatten
  (incoming ++ subgraph.outputs).forM program.checkNoOrder
  subgraph.inputs.forM (program.checkGroup subgraph.nodes)
  if incoming.Nodup then pure () else fail (.boundary .repeatedIncoming)
  subgraph.outputs.forM (checkOutgoing subgraph.nodes)

/-- No path between siblings leaves a set of them and comes back. -/
def checkConvex (program : Program) (nodes : List Node) : Outcome Unit :=
  match nodes with
  | [] => pure ()
  | first :: _ => do
    match ← program.parent? first with
    | none => pure ()
    | some parent =>
      let dependencies ← program.dependencies parent
      let escaping := (nodes.flatMap dependencies.successors.targets).filter fun node => node ∉ nodes
      if (dependencies.successors.reachable escaping).any fun node => decide (node ∈ nodes) then
        failAt first (.boundary .notConvex)
      else pure ()

/-- A subgraph with a given boundary. -/
def checkedSubgraph (program : Program) (subgraph : Subgraph) : Outcome Subgraph := do
  program.checkBoundary subgraph
  program.checkConvex subgraph.nodes
  pure subgraph

/-- The subgraph of some nodes. Every port that is fed from outside is an input of its own. -/
def subgraphOf (program : Program) (nodes : List Node) : Outcome Subgraph := do
  let ports ← nodes.mapM fun node => do
    let incoming ← program.crossing nodes node .incoming
    let outgoing ← program.crossing nodes node .outgoing
    pure (incoming, outgoing)
  let inputs := (ports.flatMap Prod.fst).map fun port => [port]
  program.checkedSubgraph ⟨nodes, inputs, ports.flatMap Prod.snd⟩

def hasOrderEdge (program : Program) (node : Node) (direction : Direction) : Outcome Bool := do
  let op ← program.op node
  match op.orderPort? direction with
  | none => pure false
  | some offset =>
    let linked ← program.linkedPorts ⟨node, direction, offset⟩
    pure !linked.isEmpty

/-- The output port that feeds one input of the output of a region. -/
def feeder (program : Program) (output : Node) (offset : Nat) : Outcome Port := do
  match ← program.linkedPorts (output.inputPort offset) with
  | [port] => pure port
  | _ => failAt output (.boundary (.outputLinks offset output))

/-- The subgraph of everything between the input and the output of a region. -/
def regionSubgraph (program : Program) (region : Node) : Outcome Subgraph := do
  match ← program.boundary? region with
  | none => failAt region (.boundary (.notRegion region))
  | some (input, output) =>
    let ordered ← program.hasOrderEdge input .outgoing
    let ordered ← if ordered then pure true else program.hasOrderEdge output .incoming
    if ordered then failAt region (.boundary .orderAtRegion)
    else
      let children ← program.children region
      let inputOp ← program.op input
      let outputOp ← program.op output
      let inputs ← (List.range (inputOp.valueTypes .outgoing).length).mapM fun (offset : Nat) =>
        program.linkedPorts (input.outputPort offset)
      let outputs ← (List.range (outputOp.valueTypes .incoming).length).mapM (program.feeder output)
      program.checkedSubgraph ⟨children.drop 2, inputs, outputs⟩

/-- The types at the boundary of a subgraph. -/
def subgraphSignature (program : Program) (subgraph : Subgraph) : Outcome Signature := do
  let inputs ← subgraph.inputs.mapM fun group => do
    let port ← require group.head? .position
    program.valueType port
  let outputs ← subgraph.outputs.mapM program.valueType
  pure (.ofRows inputs outputs)

/-- The node that holds the nodes of a subgraph. -/
def subgraphParent? (program : Program) (subgraph : Subgraph) : Outcome (Option Node) := do
  let first ← require subgraph.nodes.head? .position
  program.parent? first

end Program

end NestedFlow
