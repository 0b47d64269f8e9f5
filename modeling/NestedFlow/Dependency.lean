import NestedFlow.Fault
import NestedFlow.Table

/-! Orders and reachability in finite directed graphs.

A graph is a table from nodes to the nodes that they feed. The nodes of the graph are the keys and the targets;
their order is the one in which they are first seen, keys before targets.
-/

set_option autoImplicit false

namespace NestedFlow

abbrev Successors (α : Type) := Table α (List α)

namespace Successors

variable {α : Type} [DecidableEq α]

def targets (graph : Successors α) (node : α) : List α := graph.getD node []

/-- How many edges enter each node. -/
def indegrees (graph : Successors α) : Table α Nat :=
  graph.values.flatten.foldl (fun degrees target => degrees.insert target (degrees.getD target 0 + 1))
    (.ofList (graph.keys.map fun key => (key, 0)))

/-- Take away one edge into a node; the node is ready after its last one. -/
def discharge (degrees : Table α Nat) (target : α) : Table α Nat × Option α :=
  let degree := degrees.getD target 0
  (degrees.insert target (degree - 1), if degree = 1 then some target else none)

/-- Take away the edges into some targets, and collect the ones that become ready. -/
def dischargeAll (degrees : Table α Nat) : List α → Table α Nat × List α
  | [] => (degrees, [])
  | target :: rest =>
    let (lower, ready) := discharge degrees target
    let (lowest, others) := dischargeAll lower rest
    (lowest, ready.toList ++ others)

/-- Emit the nodes of the queue one after another. A node enters the queue once, so there are no more steps than
nodes. -/
def emit (graph : Successors α) : Nat → Table α Nat → List α → List α
  | 0, _, _ => []
  | _ + 1, _, [] => []
  | steps + 1, degrees, node :: queue =>
    let (lower, ready) := dischargeAll degrees (graph.targets node)
    node :: emit graph steps lower (queue ++ ready)

/-- Every node before the nodes that it feeds; there is no such order if there is a cycle. -/
def topologicalOrder (graph : Successors α) : Outcome (List α) :=
  let degrees := graph.indegrees
  let sources := (degrees.entries.filter fun entry => entry.2 == 0).map Prod.fst
  let order := graph.emit degrees.size degrees sources
  if order.length = degrees.size then pure order else fail (.breakdown .cycle)

def hasCycle (graph : Successors α) : Bool :=
  match graph.topologicalOrder with
  | .ok _ => false
  | .error _ => true

/-- Visit the nodes of a stack and what they feed. A node is expanded once, so the number of edges and of nodes on
the stack bounds the steps. -/
def visit (graph : Successors α) : Nat → List α → List α → List α
  | 0, _, visited => visited
  | _ + 1, [], visited => visited
  | steps + 1, node :: stack, visited =>
    if node ∈ visited then visit graph steps stack visited
    else visit graph steps (graph.targets node ++ stack) (node :: visited)

/-- The nodes at the ends of nonempty paths from the given ones. -/
def reachable (graph : Successors α) (starts : List α) : List α :=
  let stack := starts.flatMap graph.targets
  graph.visit (stack.length + graph.values.flatten.length + 1) stack []

end Successors

/-- Who must run before whom: the two directions of one relation over the same nodes. -/
structure DependencyGraph (α : Type) where
  successors : Successors α
  predecessors : Successors α

namespace DependencyGraph

variable {α : Type} [DecidableEq α]

def mention (graph : Successors α) (node : α) : Successors α :=
  if graph.contains node then graph else graph.insert node []

/-- Add an edge unless it is there already. -/
def addTarget (graph : Successors α) (source target : α) : Successors α :=
  let targets := graph.targets source
  graph.insert source (if target ∈ targets then targets else targets ++ [target])

def addNode (graph : DependencyGraph α) (node : α) : DependencyGraph α :=
  ⟨mention graph.successors node, mention graph.predecessors node⟩

def addEdge (graph : DependencyGraph α) (edge : α × α) : DependencyGraph α where
  successors := mention (addTarget graph.successors edge.1 edge.2) edge.2
  predecessors := mention (addTarget graph.predecessors edge.2 edge.1) edge.1

/-- The graph of some edges, with further nodes that come first. Repeated edges count once. -/
def ofEdges (edges : List (α × α)) (nodes : List α) : DependencyGraph α :=
  edges.foldl addEdge (nodes.foldl addNode ⟨∅, ∅⟩)

def nodes (graph : DependencyGraph α) : List α := graph.successors.keys

def contains (graph : DependencyGraph α) (node : α) : Bool := graph.successors.contains node

def descendants (graph : DependencyGraph α) (node : α) : List α := graph.successors.reachable [node]

def ancestors (graph : DependencyGraph α) (node : α) : List α := graph.predecessors.reachable [node]

def topologicalOrder (graph : DependencyGraph α) : Outcome (List α) := graph.successors.topologicalOrder

def hasCycle (graph : DependencyGraph α) : Bool := graph.successors.hasCycle

end DependencyGraph

end NestedFlow
