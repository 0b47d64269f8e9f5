import NestedFlow.Fault.Signature
import NestedFlow.Fault.Mismatch
import NestedFlow.Fault.Structure
import NestedFlow.Fault.Boundary
import NestedFlow.Json.Size
import NestedFlow.Text.Reading

/-! Errors.

An error is a fault and the place it concerns. Faults are causes with their data; `Fault.message` words them. Two
errors are equal as diagnostics if their kinds, messages and places are.
-/

set_option autoImplicit false

namespace NestedFlow

inductive LinearityFault where
  | alreadyDrives (port : Port) (type : Option PortType)
  | neverConsumed (offset : Nat) (op : Op) (type : Option PortType)
  | usedTimes (offset : Nat) (op : Op) (type : Option PortType) (count : Nat)

def LinearityFault.message : LinearityFault → String
  | .alreadyDrives port type =>
    "Linear output " ++ port.text ++ " of type " ++ MismatchFault.portText type ++ " already drives a value edge"
  | .neverConsumed offset op type =>
    "Linear output " ++ toString offset ++ " of " ++ op.name ++ " (" ++ MismatchFault.portText type ++
      ") is never consumed"
  | .usedTimes offset op type count =>
    "Linear output " ++ toString offset ++ " of " ++ op.name ++ " (" ++ MismatchFault.portText type ++ ") is used " ++
      toString count ++ " times"

inductive BuildFault where
  | extensionName (name : String)
  | memberName (what name extension : String)
  | memberTaken (what name extension : String)
  | registered (name : String)

def BuildFault.message : BuildFault → String
  | .extensionName name => "Invalid extension name " ++ Text.quoted name ++ ": expected dot-separated identifiers"
  | .memberName what name extension =>
    "Invalid " ++ what ++ " name " ++ Text.quoted name ++ " in extension " ++ extension
  | .memberTaken what name extension =>
    "Extension " ++ extension ++ " already has a " ++ what ++ " called " ++ name
  | .registered name => "Extension " ++ name ++ " is already registered"

inductive DocumentFault where
  | notText
  | notTable
  | notObject (found : Json)
  | malformed
  | noNodes
  | operation (cause : String)
  | rootParent
  | parentRange (index : Int)
  | relayed (cause : String)
  | absentEnd (source target : Int × Int)

def DocumentFault.pairText (pair : Int × Int) : String :=
  "(" ++ toString pair.1 ++ ", " ++ toString pair.2 ++ ")"

def DocumentFault.message : DocumentFault → String
  | .notText => "Invalid JSON"
  | .notTable => "Invalid TOML"
  | .notObject found => "Expected an object at the top level, got " ++ found.kindName
  | .malformed => "Malformed Hugr document"
  | .noNodes => "Encoded Hugr has no nodes"
  | .operation cause => "Cannot decode operation: " ++ cause
  | .rootParent => "The root node must not have a parent"
  | .parentRange index => "Parent index " ++ toString index ++ " out of range"
  | .relayed cause => cause
  | .absentEnd source target =>
    "Edge " ++ pairText source ++ " -> " ++ pairText target ++ " references a missing node"

inductive ConfigFault where
  | unknownKeys (keys : List String)
  | format (found : Json)
  | notBoolean (key : String) (found : Json)
  | notTable
  | notToml
  | unknownFormat (name : String)

def ConfigFault.message : ConfigFault → String
  | .unknownKeys keys => "Unknown keys in [tool.hugr-core]: " ++ ", ".intercalate keys
  | .format found =>
    "Invalid [tool.hugr-core].serialization-format: expected one of ('json', 'toml'), got " ++ found.display
  | .notBoolean key found => "Invalid [tool.hugr-core]." ++ key ++ ": expected boolean, got " ++ found.display
  | .notTable => "Invalid [tool.hugr-core]: expected a table"
  | .notToml => "Invalid TOML"
  | .unknownFormat name => "Unknown serialization format: " ++ Text.quoted name

/-- Failures of the operations that a rule is built on: a position beyond a list, a value that an operation does not
take, data of the wrong type, a part that a value does not have, a missing key, data of the wrong shape, a text nested
too deeply, bytes that are no text, data that has no text, text that has no bytes, a number beyond a range, a list that
there is no room for, a file that cannot be there, a directory in the place of a file, a file in the place of a
directory or of one on the way, a name that is too long, and a cycle. All but the cycle have no message of their own. -/
inductive Breakdown where
  | position
  | value
  | type
  | attribute
  | key
  | model
  | depth
  | bytes
  | text
  | encoding
  | range
  | memory
  | absentFile
  | directory
  | fileThere
  | belowFile
  | name
  | cycle
  deriving DecidableEq

inductive Fault where
  | shape (cause : StructureFault)
  | boundary (cause : BoundaryFault)
  | signature (cause : SignatureFault)
  | mismatch (cause : MismatchFault)
  | linearity (cause : LinearityFault)
  | extensionNotFound (extension : String)
  | operationNotFound (extension operation : String)
  | build (cause : BuildFault)
  | missingExtensions (missing : ExtensionSet)
  | document (cause : DocumentFault)
  | unsupportedVersion (found : Json)
  | config (cause : ConfigFault)
  | breakdown (cause : Breakdown)

namespace Fault

def message : Fault → String
  | .shape cause => cause.message
  | .boundary cause => cause.message
  | .signature cause => cause.message
  | .mismatch cause => cause.message
  | .linearity cause => cause.message
  | .extensionNotFound extension => "Extension '" ++ extension ++ "' not found"
  | .operationNotFound extension operation =>
    "Extension '" ++ extension ++ "' has no operation '" ++ operation ++ "'"
  | .build cause => cause.message
  | .missingExtensions missing => "Missing required extensions " ++ missing.text
  | .document cause => cause.message
  | .unsupportedVersion found => "Unsupported serialization version: " ++ found.display
  | .config cause => cause.message
  | .breakdown .cycle => "Cycle detected in graph"
  | .breakdown _ => ""

/-- The name under which a fault is reported. -/
def kind : Fault → String
  | .shape _ => "StructuralError"
  | .boundary _ => "InvalidSubgraph"
  | .signature _ => "SignatureError"
  | .mismatch _ => "TypeMismatch"
  | .linearity _ => "LinearityViolation"
  | .extensionNotFound _ => "ExtensionNotFound"
  | .operationNotFound _ _ => "OperationNotFound"
  | .build _ => "ExtensionBuildError"
  | .missingExtensions _ => "ExtensionInferenceError"
  | .document _ => "DeserializationError"
  | .unsupportedVersion _ => "UnsupportedVersion"
  | .config _ => "ConfigError"
  | .breakdown _ => "Breakdown"

/-- Whether the numbers that an input may have put into the message have few enough digits. -/
def isWritable : Fault → Bool
  | .shape (.absentPort _ offset _) => Text.isWritable offset
  | .signature cause => cause.isWritable
  | .document (.parentRange index) => Text.isWritable index
  | .document (.absentEnd source target) => [source.1, source.2, target.1, target.2].all Text.isWritable
  | .unsupportedVersion found => found.isWritable
  | .config (.format found) => found.isWritable
  | .config (.notBoolean _ found) => found.isWritable
  | _ => true

/-- The fault, if its message can be written. -/
def checked (fault : Fault) : Fault := if fault.isWritable then fault else .breakdown .value

/-- Whether the fault is a breakdown rather than a finding about the input. -/
def isBreakdown : Fault → Bool
  | .breakdown _ => true
  | _ => false

end Fault

/-- What an error concerns: a node of a program, or the position of a node in a document. -/
inductive Place where
  | node (node : Node)
  | position (index : Int)
  deriving DecidableEq

def Place.text : Place → String
  | .node live => live.text
  | .position index => toString index

structure Error where
  fault : Fault
  place : Option Place

/-- An error as it is reported. -/
structure Diagnostic where
  kind : String
  message : String
  place : Option Place
  deriving DecidableEq

def Diagnostic.text (diagnostic : Diagnostic) : String :=
  match diagnostic.place with
  | none => diagnostic.message
  | some place => place.text ++ ": " ++ diagnostic.message

namespace Error

def diagnostic (error : Error) : Diagnostic := ⟨error.fault.kind, error.fault.message, error.place⟩

/-- The error at a node, unless it already has a place. -/
def attach (error : Error) (node : Node) : Error :=
  { error with place := error.place <|> some (.node node) }

def bare (fault : Fault) : Error := ⟨fault, none⟩

def onNode (fault : Fault) (node : Node) : Error := ⟨fault, some (.node node)⟩

end Error

/-- Results of the operations of this library. -/
abbrev Outcome (α : Type) := Except Error α

/-- Fail with a fault that has no place. -/
def fail {α : Type} (fault : Fault) : Outcome α := .error (.bare fault)

/-- The result of reading, where a text of the wrong form is a given fault. -/
def Reading.orFail {α : Type} (reading : Reading α) (wrongForm : Fault) : Outcome α :=
  match reading with
  | .ok value => .ok value
  | .error .form => fail wrongForm
  | .error .digits => fail (.breakdown .value)
  | .error .depth => fail (.breakdown .depth)
  | .error .bytes => fail (.breakdown .bytes)

/-- Fail with a fault at a node. -/
def failAt {α : Type} (node : Node) (fault : Fault) : Outcome α := .error (.onNode fault node)

end NestedFlow
