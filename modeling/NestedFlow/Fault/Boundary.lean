import NestedFlow.Port

/-! Why a set of nodes is no subgraph of a region. -/

set_option autoImplicit false

namespace NestedFlow

inductive BoundaryFault where
  | notRegion (parent : Node)
  | orderAtRegion
  | outputLinks (offset : Nat) (output : Node)
  | notValuePort (port : Port)
  | empty
  | parentless
  | manyParents
  | orderPort (port : Port)
  | unusedInput
  | incomingPort (port : Port)
  | fedInside (port : Port)
  | inputTypes
  | linearInput
  | repeatedIncoming
  | outgoingPort (port : Port)
  | notConvex

namespace BoundaryFault

def message : BoundaryFault → String
  | .notRegion parent => parent.text ++ " is not a dataflow region with Input and Output children"
  | .orderAtRegion => "Order edges on the region's Input or Output are not supported at the boundary"
  | .outputLinks offset output =>
    "Output port " ++ toString offset ++ " of " ++ output.text ++ " is not linked exactly once"
  | .notValuePort port => port.text ++ " is not a value port"
  | .empty => "Subgraph is empty"
  | .parentless => "Subgraph nodes must be children of a region"
  | .manyParents => "Subgraph nodes do not share a parent"
  | .orderPort port => "Order edge on the subgraph boundary at " ++ port.text
  | .unusedInput => "Subgraph input is not consumed by any port"
  | .incomingPort port => "Invalid incoming boundary port " ++ port.text
  | .fedInside port => "Boundary port " ++ port.text ++ " is fed from inside the subgraph"
  | .inputTypes => "Ports of one subgraph input disagree on their type"
  | .linearInput => "Linear subgraph input is consumed more than once"
  | .repeatedIncoming => "Incoming boundary ports are not unique"
  | .outgoingPort port => "Invalid outgoing boundary port " ++ port.text
  | .notConvex => "Subgraph is not convex"

end BoundaryFault

end NestedFlow
