import NestedFlow.Op

/-! What can be wrong with the shape of a program: its ports and edges, its containment tree, and the children of its
regions.
-/

set_option autoImplicit false

namespace NestedFlow

/-- An edge whose recorded ends do not agree with the ports. -/
inductive EdgeProblem where
  | absentNode (edge : Nat) (node : Node)
  | unattached (edge : Nat) (direction : Direction) (offset : Int) (node : Node)
  deriving DecidableEq

def EdgeProblem.message : EdgeProblem → String
  | .absentNode edge node => "Edge " ++ toString edge ++ " references removed node " ++ node.text
  | .unattached edge direction offset node =>
    "Edge " ++ toString edge ++ " is not attached to " ++ direction.text ++ " port " ++ toString offset ++ " of " ++
      node.text

inductive StructureFault where
  -- ports and edges
  | negativeCounts (inputs outputs : Int)
  | negativeCount (count : Int)
  | absentNode (node : Node)
  | dropLinked (direction : Direction) (offset : Nat)
  | insertRange (direction : Direction) (offset : Int) (count : Nat)
  | removeLinked (direction : Direction) (offset : Int)
  | edgeDirections (source target : Port)
  | absentEdge (edge : Int)
  | absentPort (direction : Direction) (offset : Int) (count : Nat)
  -- the containment tree
  | insertBeforeTop (sibling : Node)
  | insertAfterTop (sibling : Node)
  | forgetParent (node : Node)
  | alreadyAttached (node parent : Node)
  | containmentCycle (node parent : Node)
  -- programs
  | foreignNode (node : Node)
  | fixedRoot
  | moveBeforeTop (sibling : Node)
  | moveCycle (node sibling : Node)
  | removeParent (node : Node)
  | kindsDiffer (source : Port) (sourceKind : EdgeKind) (target : Port) (targetKind : EdgeKind)
  | inputLinked (port : Port)
  | noPort (op : Op) (direction : Direction) (offset : Int)
  | noOrderPort (op : Op) (direction : Direction)
  | dependencyCycle (parent : Node)
  -- whole programs
  | edgeProblem (problem : EdgeProblem)
  | rootParent
  | rootEdges
  | noParent
  | portTotal (op : Op) (expected : Nat) (direction : Direction) (found : Nat)
  | childClass (op parent : Op)
  | childless (op : Op)
  | firstChild (op : Op) (found : OpTag)
  | secondChild (op : Op) (found : OpTag)
  | lacksSecond (op : Op)
  | strayBoundary (op : Op)
  | regionCycle (op : Op)
  | caseCount (found expected : Nat)
  | noExit
  | noSuccessor (index count : Nat)
  | manySuccessors (index count : Nat)
  | edgeWithoutPort (edge : Edge)
  | edgeKinds (edge : Edge) (source target : EdgeKind)
  | notSiblings (edge : Edge)
  | staticScope (edge : Edge)
  | controlScope (edge : Edge)
  | inputLinks (kind : EdgeKind) (offset : Nat) (op : Op) (count : Nat)

namespace StructureFault

def message : StructureFault → String
  | .negativeCounts inputs outputs =>
    "Port counts must be non-negative, got (" ++ toString inputs ++ ", " ++ toString outputs ++ ")"
  | .negativeCount count => "Port counts must be non-negative, got " ++ toString count
  | .absentNode node => node.text ++ " is not in the graph (removed or from another graph)"
  | .dropLinked direction offset => "Cannot drop linked " ++ direction.text ++ " port " ++ toString offset
  | .insertRange direction offset count =>
    "Cannot insert " ++ direction.text ++ " port at offset " ++ toString offset ++ " (node has " ++ toString count ++ ")"
  | .removeLinked direction offset => "Cannot remove linked " ++ direction.text ++ " port " ++ toString offset
  | .edgeDirections source target =>
    "Edges must go from an outgoing to an incoming port, got " ++ source.text ++ " -> " ++ target.text
  | .absentEdge edge => "Edge " ++ toString edge ++ " does not exist"
  | .absentPort direction offset count =>
    "No " ++ direction.text ++ " port " ++ toString offset ++ " (node has " ++ toString count ++ ")"
  | .insertBeforeTop sibling => "Cannot insert before " ++ sibling.text ++ ": it has no parent"
  | .insertAfterTop sibling => "Cannot insert after " ++ sibling.text ++ ": it has no parent"
  | .forgetParent node => "Cannot forget " ++ node.text ++ ": it still has children"
  | .alreadyAttached node parent => node.text ++ " already has parent " ++ parent.text
  | .containmentCycle node parent => "Attaching " ++ node.text ++ " under " ++ parent.text ++ " would create a cycle"
  | .foreignNode node => node.text ++ " is not in this Hugr (removed or from another Hugr)"
  | .fixedRoot => "The root node cannot be moved or removed"
  | .moveBeforeTop sibling => "Cannot move before " ++ sibling.text ++ ": it has no parent"
  | .moveCycle node sibling => "Moving " ++ node.text ++ " before " ++ sibling.text ++ " would create a cycle"
  | .removeParent node => "Cannot remove " ++ node.text ++ ": it still has children (use remove_subtree)"
  | .kindsDiffer source sourceKind target targetKind =>
    "Cannot connect " ++ sourceKind.text ++ " port " ++ source.text ++ " to " ++ targetKind.text ++ " port " ++
      target.text
  | .inputLinked port => "Input " ++ port.text ++ " is already linked"
  | .noPort op direction offset => op.name ++ " has no " ++ direction.text ++ " port " ++ toString offset
  | .noOrderPort op direction => op.name ++ " has no " ++ direction.text ++ " order port"
  | .dependencyCycle parent => "Children of " ++ parent.text ++ " contain a dataflow cycle"
  | .edgeProblem problem => problem.message
  | .rootParent => "The root node has a parent"
  | .rootEdges => "The root node has edges"
  | .noParent => "Node has no parent"
  | .portTotal op expected direction found =>
    op.name ++ " should have " ++ toString expected ++ " " ++ direction.text ++ " ports, found " ++ toString found
  | .childClass op parent =>
    op.name ++ " (" ++ op.opTag.text ++ ") is not allowed as a child of " ++ parent.name ++ " (allows " ++
      parent.childRules.allowed.text ++ ")"
  | .childless op => op.name ++ " must have children"
  | .firstChild op found =>
    "First child of " ++ op.name ++ " must be " ++ op.childRules.first.text ++ ", found " ++ found.text
  | .secondChild op found =>
    "Second child of " ++ op.name ++ " must be " ++ op.childRules.second.text ++ ", found " ++ found.text
  | .lacksSecond op => op.name ++ " must have a second child of kind " ++ op.childRules.second.text
  | .strayBoundary op => op.name ++ " may only have Input and Output as its first two children"
  | .regionCycle op => "Children of " ++ op.name ++ " contain a dataflow cycle"
  | .caseCount found expected =>
    "Conditional has " ++ toString found ++ " cases, expected " ++ toString expected
  | .noExit => "CFG has no exit block"
  | .noSuccessor index count =>
    "Discriminant " ++ toString index ++ " of " ++ toString count ++ " has no successor (non-exhaustive branching)"
  | .manySuccessors index count =>
    "Discriminant " ++ toString index ++ " has " ++ toString count ++ " successors (duplicate discriminant)"
  | .edgeWithoutPort edge => "Edge " ++ edge.text ++ " is attached to a port its op does not have"
  | .edgeKinds edge source target =>
    "Edge " ++ edge.text ++ " joins " ++ source.text ++ " and " ++ target.text ++ " ports"
  | .notSiblings edge => edge.kind.text ++ " edge " ++ edge.text ++ " does not join siblings"
  | .staticScope edge => "Static edge " ++ edge.text ++ " leaves the scope of its source"
  | .controlScope edge => "Control-flow edge " ++ edge.text ++ " does not join blocks of the same CFG"
  | .inputLinks kind offset op count =>
    kind.text ++ " input " ++ toString offset ++ " of " ++ op.name ++ " is " ++
      (if count = 0 then "unconnected" else "linked " ++ toString count ++ " times")

end StructureFault

end NestedFlow
