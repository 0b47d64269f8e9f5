/-! Nodes, ports and edges by their identities.

The identity of a node is the position of its slot and the generation of that slot, so that an identity of a
removed node never names a later one. Identities come from callers and may name nothing.
-/

set_option autoImplicit false

namespace NestedFlow

inductive Direction where
  | incoming
  | outgoing
  deriving DecidableEq, Inhabited

namespace Direction

def reverse : Direction → Direction
  | .incoming => .outgoing
  | .outgoing => .incoming

def text : Direction → String
  | .incoming => "incoming"
  | .outgoing => "outgoing"

/-- Both directions, incoming first. -/
def both : List Direction := [.incoming, .outgoing]

end Direction

/-- What an edge carries: a typed value, an ordering, a constant or function, or control. -/
inductive EdgeKind where
  | value
  | order
  | static
  | controlFlow
  deriving DecidableEq, Inhabited

namespace EdgeKind

def text : EdgeKind → String
  | .value => "value"
  | .order => "order"
  | .static => "static"
  | .controlFlow => "control_flow"

def ofText? : String → Option EdgeKind
  | "value" => some .value
  | "order" => some .order
  | "static" => some .static
  | "control_flow" => some .controlFlow
  | _ => none

/-- Value and static ports have a type, and take one edge each as inputs. -/
def isTyped : EdgeKind → Bool
  | .value | .static => true
  | .order | .controlFlow => false

end EdgeKind

structure Node where
  index : Int
  generation : Int
  deriving DecidableEq, Inhabited

namespace Node

def text (node : Node) : String := "Node(" ++ toString node.index ++ ")"

/-- Nodes in the order of their slots. -/
def le (left right : Node) : Bool :=
  left.index < right.index || (left.index == right.index && left.generation ≤ right.generation)

end Node

structure Port where
  node : Node
  direction : Direction
  offset : Int
  deriving DecidableEq, Inhabited

namespace Port

def text (port : Port) : String :=
  port.node.text ++ (match port.direction with | .incoming => ".in" | .outgoing => ".out") ++
    toString port.offset

end Port

def Node.inputPort (node : Node) (offset : Int) : Port := ⟨node, .incoming, offset⟩

def Node.outputPort (node : Node) (offset : Int) : Port := ⟨node, .outgoing, offset⟩

/-- An edge as it was when it was looked at. Offsets may shift later, the identity stays. -/
structure Edge where
  id : Nat
  source : Port
  target : Port
  kind : EdgeKind
  deriving DecidableEq, Inhabited

namespace Edge

def text (edge : Edge) : String :=
  edge.source.text ++ " -> " ++ edge.target.text ++ " (" ++ edge.kind.text ++ ")"

end Edge

end NestedFlow
