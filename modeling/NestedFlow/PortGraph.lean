import NestedFlow.Change
import NestedFlow.Position
import NestedFlow.SortedList
import NestedFlow.Table

/-! Multigraphs of nodes with ordered, directed ports.

Nodes live in the slots of an arena. Removing a node raises the generation of its slot and frees the slot for a
later node, which therefore has another identity. An edge is kept once, with its two ends, and its identity is
listed at both of its ports.
-/

set_option autoImplicit false

namespace NestedFlow

/-- A slot of the arena. Every port lists its edges in the order in which they were attached. -/
structure Slot where
  generation : Nat
  live : Bool
  inputs : List (List Nat)
  outputs : List (List Nat)

namespace Slot

def vacant : Slot := ⟨0, false, [], []⟩

def ports (slot : Slot) : Direction → List (List Nat)
  | .incoming => slot.inputs
  | .outgoing => slot.outputs

def withPorts (slot : Slot) (direction : Direction) (ports : List (List Nat)) : Slot :=
  match direction with
  | .incoming => { slot with inputs := ports }
  | .outgoing => { slot with outputs := ports }

/-- Every identity of an edge at a port of the slot, inputs first. -/
def edgeIds (slot : Slot) : List Nat := slot.inputs.flatten ++ slot.outputs.flatten

end Slot

/-- The ends of an edge as they are recorded. -/
structure Link where
  source : Node
  sourceOffset : Int
  target : Node
  targetOffset : Int
  kind : EdgeKind
  deriving DecidableEq

namespace Link

def node (link : Link) : Direction → Node
  | .incoming => link.target
  | .outgoing => link.source

def offset (link : Link) : Direction → Int
  | .incoming => link.targetOffset
  | .outgoing => link.sourceOffset

/-- The edge as it is seen from outside. -/
def edge (link : Link) (id : Nat) : Edge :=
  ⟨id, link.source.outputPort link.sourceOffset, link.target.inputPort link.targetOffset, link.kind⟩

/-- Move the end on one side by some ports, if it is at the node. -/
def shift (link : Link) (node : Node) (direction : Direction) (distance : Int) : Link :=
  match direction with
  | .incoming => if link.target = node then { link with targetOffset := link.targetOffset + distance } else link
  | .outgoing => if link.source = node then { link with sourceOffset := link.sourceOffset + distance } else link

end Link

structure PortGraph where
  slots : List Slot
  /-- The slots to be used again, the latest one first. -/
  free : List Nat
  links : Table Nat Link
  nextEdge : Nat
  nodeCount : Nat

namespace PortGraph

def empty : PortGraph := ⟨[], [], ∅, 0, 0⟩

instance : Inhabited PortGraph := ⟨empty⟩

/-- The slot of a live node. -/
def slot? (graph : PortGraph) (node : Node) : Option Slot :=
  if node.index < 0 then none
  else
    match graph.slots[node.index.toNat]? with
    | some slot => if slot.live ∧ (slot.generation : Int) = node.generation then some slot else none
    | none => none

def contains (graph : PortGraph) (node : Node) : Bool := (graph.slot? node).isSome

def slot (graph : PortGraph) (node : Node) : Outcome Slot :=
  match graph.slot? node with
  | some slot => pure slot
  | none => failAt node (.shape (.absentNode node))

def nodesFrom (index : Nat) : List Slot → List Node
  | [] => []
  | slot :: rest =>
    if slot.live then ⟨index, slot.generation⟩ :: nodesFrom (index + 1) rest else nodesFrom (index + 1) rest

/-- The live nodes in the order of their slots. -/
def nodes (graph : PortGraph) : List Node := nodesFrom 0 graph.slots

def edgeCount (graph : PortGraph) : Nat := graph.links.size

/-! ### Questions about ports and edges -/

def numPorts (graph : PortGraph) (node : Node) (direction : Direction) : Outcome Nat := do
  let slot ← graph.slot node
  pure (slot.ports direction).length

def ports (graph : PortGraph) (node : Node) (direction : Direction) : Outcome (List Port) := do
  let count ← graph.numPorts node direction
  pure ((List.range count).map fun (offset : Nat) => ⟨node, direction, offset⟩)

/-- The port is one of its node. -/
def checkPort (graph : PortGraph) (port : Port) : Outcome Unit := do
  let count ← graph.numPorts port.node port.direction
  if port.offset < 0 ∨ (count : Int) ≤ port.offset then
    failAt port.node (.shape (.absentPort port.direction port.offset count))
  else pure ()

def link (graph : PortGraph) (id : Nat) : Outcome Link := require (graph.links.get? id) .key

def edgeAt (graph : PortGraph) (id : Nat) : Outcome Edge := do
  let link ← graph.link id
  pure (link.edge id)

/-- The identity of an existing edge. -/
def edgeId (graph : PortGraph) (id : Int) : Outcome Nat :=
  if 0 ≤ id ∧ graph.links.contains id.toNat then pure id.toNat else fail (.shape (.absentEdge id))

def getEdge (graph : PortGraph) (id : Int) : Outcome Edge := do
  let known ← graph.edgeId id
  graph.edgeAt known

def portEdges (graph : PortGraph) (port : Port) : Outcome (List Edge) := do
  graph.checkPort port
  let slot ← graph.slot port.node
  (((slot.ports port.direction)[port.offset.toNat]?).getD []).mapM graph.edgeAt

/-- The ports at the other ends of the edges of a port. -/
def linkedPorts (graph : PortGraph) (port : Port) : Outcome (List Port) := do
  let edges ← graph.portEdges port
  pure (edges.map fun edge =>
    match port.direction with
    | .outgoing => edge.target
    | .incoming => edge.source)

/-- The edges at a node by port and age, incoming ones first. An edge from a node to itself counts on both sides. -/
def edges (graph : PortGraph) (node : Node) (direction : Option Direction) (kind : Option EdgeKind) :
    Outcome (List Edge) := do
  let slot ← graph.slot node
  let ids := match direction with
    | none => slot.edgeIds
    | some direction => (slot.ports direction).flatten
  let edges ← ids.mapM graph.edgeAt
  pure (edges.filter fun edge => kind.all fun kind => kind == edge.kind)

/-- The nodes across the edges at a node, with repetition. -/
def neighbours (graph : PortGraph) (node : Node) (direction : Option Direction) (kind : Option EdgeKind) :
    Outcome (List Node) := do
  let edges ← graph.edges node direction kind
  pure (edges.map fun edge =>
    match direction with
    | some .incoming => edge.source.node
    | some .outgoing => edge.target.node
    | none => if edge.target.node = node then edge.source.node else edge.target.node)

/-- All edges in the order of their creation. -/
def allEdges (graph : PortGraph) : List Edge := graph.links.entries.map fun entry => entry.2.edge entry.1

/-- Whether the recorded end of an edge is a port that lists the edge. -/
def endProblem? (graph : PortGraph) (id : Nat) (link : Link) (direction : Direction) : Outcome (Option EdgeProblem) :=
  let node := link.node direction
  let offset := link.offset direction
  match graph.slot? node with
  | none => pure (some (.absentNode id node))
  | some slot =>
    let ports := slot.ports direction
    if (ports.length : Int) ≤ offset then pure (some (.unattached id direction offset node))
    else do
      let listed ← require (itemAt? ports offset) .position
      pure (if id ∈ listed then none else some (.unattached id direction offset node))

/-- The edges whose recorded ends are not ports that list them, source first. -/
def edgeProblems (graph : PortGraph) : Outcome (List EdgeProblem) := do
  let found ← graph.links.entries.mapM fun (id, link) => do
    let source ← graph.endProblem? id link .outgoing
    let target ← graph.endProblem? id link .incoming
    pure (source.toList ++ target.toList)
  pure found.flatten

/-! ### Changes -/

def setSlot (graph : PortGraph) (index : Nat) (change : Slot → Slot) : PortGraph :=
  { graph with slots := graph.slots.modify index change }

def setPorts (node : Node) (direction : Direction) (change : List (List Nat) → List (List Nat)) :
    Change PortGraph Unit :=
  modify fun graph =>
    graph.setSlot node.index.toNat fun slot => slot.withPorts direction (change (slot.ports direction))

/-- Add a node with unlinked ports, in the slot that was freed last if there is one. -/
def addNode (inputs outputs : Int) : Change PortGraph Node := do
  if inputs < 0 ∨ outputs < 0 then throw (.bare (.shape (.negativeCounts inputs outputs)))
  let graph ← get
  let fill (slot : Slot) : Slot :=
    ⟨slot.generation, true, List.replicate inputs.toNat [], List.replicate outputs.toNat []⟩
  match graph.free with
  | index :: rest =>
    let generation := ((graph.slots[index]?).getD .vacant).generation
    set { graph.setSlot index fill with free := rest, nodeCount := graph.nodeCount + 1 }
    pure ⟨index, generation⟩
  | [] =>
    set { graph with slots := graph.slots ++ [fill .vacant], nodeCount := graph.nodeCount + 1 }
    pure ⟨graph.slots.length, 0⟩

/-- Take an edge from the list of a port that is found by positions, which may count from the end. -/
def release (id : Nat) (node : Node) (direction : Direction) (offset : Int) : Change PortGraph Unit := do
  let graph ← get
  let index ← Change.ask fun _ => require (positionAt? graph.slots.length node.index) .position
  let ports := ((graph.slots[index]?).getD .vacant).ports direction
  let position ← Change.ask fun _ => require (positionAt? ports.length offset) .position
  if id ∈ (ports[position]?).getD [] then
    set (graph.setSlot index fun slot =>
      slot.withPorts direction ((slot.ports direction).modify position fun listed => listed.erase id))
  else throw (.bare (.breakdown .value))

/-- Forget an edge, then take it from the ports at its recorded ends. -/
def unlink (id : Nat) : Change PortGraph Unit := do
  let link ← Change.ask fun graph => graph.link id
  modify fun graph => { graph with links := graph.links.erase id }
  release id link.source .outgoing link.sourceOffset
  release id link.target .incoming link.targetOffset

/-- Remove a node with the edges at its ports, which are returned in the order of their creation. -/
def removeNode (node : Node) : Change PortGraph (List Edge) := do
  let slot ← Change.ask fun graph => graph.slot node
  let ids := (SortedList.ofList slot.edgeIds).toList
  let removed ← ids.mapM fun id => Change.ask fun graph => graph.edgeAt id
  ids.forM unlink
  modify fun graph =>
    { graph.setSlot node.index.toNat fun slot => ⟨slot.generation + 1, false, [], []⟩ with
      free := node.index.toNat :: graph.free
      nodeCount := graph.nodeCount - 1 }
  pure removed

/-- The first linked port at or after an offset. -/
def firstLinked? (ports : List (List Nat)) (offset : Nat) : Option Nat :=
  match (ports.drop offset).findIdx? fun listed => !listed.isEmpty with
  | some further => some (offset + further)
  | none => none

/-- A node may have this many ports if no linked one is dropped. -/
def checkCount (node : Node) (ports : List (List Nat)) (direction : Direction) (count : Int) : Outcome Unit :=
  if count < 0 then failAt node (.shape (.negativeCount count))
  else
    match firstLinked? ports count.toNat with
    | some offset => failAt node (.shape (.dropLinked direction offset))
    | none => pure ()

/-- Drop ports from the end, or add unlinked ones there. -/
def resize (count : Nat) (ports : List (List Nat)) : List (List Nat) :=
  ports.take count ++ List.replicate (count - ports.length) []

def setNumPorts (node : Node) (inputs outputs : Int) : Change PortGraph Unit := do
  let slot ← Change.ask fun graph => graph.slot node
  Change.ask fun _ => checkCount node slot.inputs .incoming inputs
  Change.ask fun _ => checkCount node slot.outputs .outgoing outputs
  setPorts node .incoming (resize inputs.toNat)
  setPorts node .outgoing (resize outputs.toNat)

/-- Move the recorded ends of the edges at some ports. -/
def shiftAll (node : Node) (direction : Direction) (distance : Int) (ports : List (List Nat)) :
    Change PortGraph Unit :=
  ports.flatten.forM fun id => do
    let link ← Change.ask fun graph => graph.link id
    modify fun graph => { graph with links := graph.links.insert id (link.shift node direction distance) }

/-- Insert an unlinked port; the ports from this offset on move up by one. -/
def insertPort (node : Node) (direction : Direction) (offset : Int) : Change PortGraph Port := do
  let slot ← Change.ask fun graph => graph.slot node
  let ports := slot.ports direction
  if offset < 0 ∨ (ports.length : Int) < offset then
    throw (.onNode (.shape (.insertRange direction offset ports.length)) node)
  setPorts node direction fun ports => ports.insertIdx offset.toNat []
  shiftAll node direction 1 (ports.drop offset.toNat)
  pure ⟨node, direction, offset⟩

/-- Remove an unlinked port; the ports after it move down by one. -/
def removePort (node : Node) (direction : Direction) (offset : Int) : Change PortGraph Unit := do
  let slot ← Change.ask fun graph => graph.slot node
  let ports := slot.ports direction
  Change.ask fun graph => graph.checkPort ⟨node, direction, offset⟩
  if !((ports[offset.toNat]?).getD []).isEmpty then
    throw (.onNode (.shape (.removeLinked direction offset)) node)
  setPorts node direction fun ports => ports.eraseIdx offset.toNat
  shiftAll node direction (-1) (ports.drop (offset.toNat + 1))

/-- List an edge at a port. -/
def attach (id : Nat) (port : Port) : Change PortGraph Unit :=
  setPorts port.node port.direction fun ports => ports.modify port.offset.toNat fun listed => listed ++ [id]

/-- Add an edge from an outgoing to an incoming port. -/
def connect (source target : Port) (kind : EdgeKind) : Change PortGraph Edge := do
  if source.direction ≠ .outgoing ∨ target.direction ≠ .incoming then
    throw (.onNode (.shape (.edgeDirections source target)) source.node)
  Change.ask fun graph => graph.checkPort source
  Change.ask fun graph => graph.checkPort target
  let id := (← get).nextEdge
  modify fun graph =>
    { graph with
      nextEdge := id + 1
      links := graph.links.insert id ⟨source.node, source.offset, target.node, target.offset, kind⟩ }
  attach id source
  attach id target
  pure ⟨id, source, target, kind⟩

/-- Remove an edge; it is returned as it was. -/
def disconnect (id : Int) : Change PortGraph Edge := do
  let known ← Change.ask fun graph => graph.edgeId id
  let edge ← Change.ask fun graph => graph.edgeAt known
  unlink known
  pure edge

end PortGraph

end NestedFlow
