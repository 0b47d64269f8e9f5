import NestedFlow.Op

/-! Disagreements of types: of a constant and its type, of the two ends of an edge, and of a region and its children.
Each has a text of what was expected and of what was found.
-/

set_option autoImplicit false

namespace NestedFlow

/-- The two boundary operations of a dataflow region. -/
inductive BoundarySide where
  | input
  | output
  deriving DecidableEq

def BoundarySide.text : BoundarySide → String
  | .input => "Input"
  | .output => "Output"

inductive MismatchFault where
  | notSum (value : Value) (ty : Ty)
  | tagRange (tag : Int) (variants : Nat) (value : Value) (ty : Ty)
  | notTuple (value : Value) (ty : Ty)
  | extensionType (found : Ty) (ty : Ty)
  | notValue (data : Json) (ty : Ty)
  | elementCount (row : Row) (whole : Value) (count : Nat)
  | ports (source target : Port) (found expected : Option PortType)
  | edge (edge : Edge) (found expected : Option PortType)
  | boundary (side : BoundarySide) (op : Op) (found expected : Row)
  | caseSignature (index : Nat) (inputs outputs : Row) (expected inner : Signature)
  | entryInputs (found expected : Row)
  | exitOutputs (found expected : Row)
  | successor (node : Node) (index : Nat) (found expected : Row)

namespace MismatchFault

/-- The text of a port type; a port without one has the word for nothing. -/
def portText (type : Option PortType) : String := (type.map PortType.text).getD "None"

def message : MismatchFault → String
  | .notSum value ty => "Sum value " ++ value.text ++ " cannot have type " ++ ty.text
  | .tagRange tag variants _ ty =>
    "Tag " ++ toString tag ++ " out of range for " ++ ty.text ++ " (" ++ toString variants ++ " variants)"
  | .notTuple value ty => "Tuple value " ++ value.text ++ " cannot have type " ++ ty.text
  | .extensionType found ty => "Extension value of type " ++ found.text ++ " cannot have type " ++ ty.text
  | .notValue data _ => "Unknown constant value " ++ data.display
  | .elementCount row whole count =>
    "Expected " ++ toString row.length ++ " elements for " ++ Row.text row ++ ", " ++ whole.text ++ " has " ++
      toString count
  | .ports source target found expected =>
    "Type mismatch on " ++ source.text ++ " -> " ++ target.text ++ ": " ++ portText found ++ " != " ++
      portText expected
  | .edge link found expected =>
    "Edge " ++ link.text ++ " carries " ++ portText found ++ " into a port of type " ++ portText expected
  | .boundary side op found expected =>
    side.text ++ " of " ++ op.name ++ " has types " ++ Row.text found ++ ", expected " ++ Row.text expected
  | .caseSignature index inputs outputs expected _ =>
    "Case " ++ toString index ++ " has signature " ++ Row.text inputs ++ " -> " ++ Row.text outputs ++ ", expected " ++
      expected.text
  | .entryInputs found expected =>
    "Entry block inputs " ++ Row.text found ++ " differ from CFG inputs " ++ Row.text expected
  | .exitOutputs found expected =>
    "Exit block outputs " ++ Row.text found ++ " differ from CFG outputs " ++ Row.text expected
  | .successor node index found expected =>
    "Successor " ++ node.text ++ " of discriminant " ++ toString index ++ " expects " ++ Row.text found ++
      ", block gives " ++ Row.text expected

def expected? : MismatchFault → Option String
  | .notSum _ ty | .tagRange _ _ _ ty | .notTuple _ ty | .extensionType _ ty | .notValue _ ty => some ty.text
  | .elementCount row _ _ => some (Row.text row)
  | .ports _ _ _ expected | .edge _ _ expected => expected.map PortType.text
  | .boundary _ _ _ expected | .entryInputs _ expected | .exitOutputs _ expected | .successor _ _ _ expected =>
    some (Row.text expected)
  | .caseSignature _ _ _ expected _ => some expected.text

def found? : MismatchFault → Option String
  | .notSum value _ | .tagRange _ _ value _ | .notTuple value _ | .elementCount _ value _ => some value.text
  | .extensionType found _ => some found.text
  | .notValue .null _ => none
  | .notValue data _ => some data.plain
  | .ports _ _ found _ | .edge _ found _ => found.map PortType.text
  | .boundary _ _ found _ | .entryInputs found _ | .exitOutputs found _ | .successor _ _ found _ =>
    some (Row.text found)
  | .caseSignature _ _ _ _ inner => some inner.text

end MismatchFault

end NestedFlow
