import NestedFlow.Bound
import NestedFlow.Change
import NestedFlow.Config
import NestedFlow.Console.Cells
import NestedFlow.Console.Emoji
import NestedFlow.Console.EmojiNames
import NestedFlow.Console.Grid
import NestedFlow.Console.Markup
import NestedFlow.Console.Width
import NestedFlow.Console.Wrap
import NestedFlow.Decimal.Binary64
import NestedFlow.Decimal.Shortest
import NestedFlow.Dependency
import NestedFlow.Document
import NestedFlow.Document.Decode
import NestedFlow.Document.Encode
import NestedFlow.Document.Export
import NestedFlow.Document.Nesting
import NestedFlow.Document.Reader
import NestedFlow.Document.Schema
import NestedFlow.Document.Writer
import NestedFlow.Extension
import NestedFlow.Extension.Codec
import NestedFlow.Extension.Name
import NestedFlow.Extension.Standard
import NestedFlow.ExtensionSet
import NestedFlow.Fault
import NestedFlow.Fault.Boundary
import NestedFlow.Fault.Mismatch
import NestedFlow.Fault.Signature
import NestedFlow.Fault.Structure
import NestedFlow.Fault.Writable
import NestedFlow.Hierarchy
import NestedFlow.Json
import NestedFlow.Json.Display
import NestedFlow.Json.Portable
import NestedFlow.Json.Reader
import NestedFlow.Json.Size
import NestedFlow.Json.Writer
import NestedFlow.Moment
import NestedFlow.Op
import NestedFlow.OpTag
import NestedFlow.Param
import NestedFlow.Port
import NestedFlow.PortGraph
import NestedFlow.Position
import NestedFlow.Program
import NestedFlow.Program.Codec
import NestedFlow.Program.Render
import NestedFlow.Program.Requirements
import NestedFlow.Program.Subgraph
import NestedFlow.Program.Validation
import NestedFlow.Proofs.Arguments
import NestedFlow.Proofs.Change
import NestedFlow.Proofs.Composition
import NestedFlow.Proofs.Dependency
import NestedFlow.Proofs.Document.Decoded
import NestedFlow.Proofs.Document.Decoding
import NestedFlow.Proofs.Document.Faults
import NestedFlow.Proofs.Document.Nulls
import NestedFlow.Proofs.Document.Reading
import NestedFlow.Proofs.Document.Reencoding
import NestedFlow.Proofs.Document.Resolution
import NestedFlow.Proofs.Document.WellFormed
import NestedFlow.Proofs.Extension
import NestedFlow.Proofs.Extension.Name
import NestedFlow.Proofs.ExtensionSet
import NestedFlow.Proofs.Faults
import NestedFlow.Proofs.Hierarchy.Changes
import NestedFlow.Proofs.Hierarchy.Descendants
import NestedFlow.Proofs.Hierarchy.Forest
import NestedFlow.Proofs.Hierarchy.Refinement
import NestedFlow.Proofs.Hierarchy.Steps
import NestedFlow.Proofs.Hierarchy.Stores
import NestedFlow.Proofs.Hierarchy.Traversal
import NestedFlow.Proofs.Hierarchy.Walk
import NestedFlow.Proofs.Inclusion
import NestedFlow.Proofs.Instantiation
import NestedFlow.Proofs.Json
import NestedFlow.Proofs.Json.Free
import NestedFlow.Proofs.Json.Nulls
import NestedFlow.Proofs.Json.Parts
import NestedFlow.Proofs.Op
import NestedFlow.Proofs.Op.Layout
import NestedFlow.Proofs.Outcome
import NestedFlow.Proofs.PortGraph.Consistent
import NestedFlow.Proofs.PortGraph.Growth
import NestedFlow.Proofs.PortGraph.Identity
import NestedFlow.Proofs.PortGraph.Insertion
import NestedFlow.Proofs.PortGraph.Integrity
import NestedFlow.Proofs.PortGraph.Ports
import NestedFlow.Proofs.PortGraph.Questions
import NestedFlow.Proofs.PortGraph.Removal
import NestedFlow.Proofs.PortGraph.Renumbering
import NestedFlow.Proofs.Program.Accepted
import NestedFlow.Proofs.Program.Agreement
import NestedFlow.Proofs.Program.Atomicity
import NestedFlow.Proofs.Program.Bare
import NestedFlow.Proofs.Program.Canonical
import NestedFlow.Proofs.Program.Consistent
import NestedFlow.Proofs.Program.ControlFlow
import NestedFlow.Proofs.Program.Coverage
import NestedFlow.Proofs.Program.Crossing
import NestedFlow.Proofs.Program.Decoding
import NestedFlow.Proofs.Program.Encoding
import NestedFlow.Proofs.Program.Faults
import NestedFlow.Proofs.Program.Finalizing
import NestedFlow.Proofs.Program.Inference
import NestedFlow.Proofs.Program.Invariance
import NestedFlow.Proofs.Program.Linear
import NestedFlow.Proofs.Program.Mirror
import NestedFlow.Proofs.Program.Nulls
import NestedFlow.Proofs.Program.Ordering
import NestedFlow.Proofs.Program.Questions
import NestedFlow.Proofs.Program.Reachable
import NestedFlow.Proofs.Program.Rebuilding
import NestedFlow.Proofs.Program.Reencoding
import NestedFlow.Proofs.Program.Region
import NestedFlow.Proofs.Program.Removal
import NestedFlow.Proofs.Program.Reports
import NestedFlow.Proofs.Program.Requirements
import NestedFlow.Proofs.Program.Rereading
import NestedFlow.Proofs.Program.RoundTrip
import NestedFlow.Proofs.Program.Scoping
import NestedFlow.Proofs.Program.Steps
import NestedFlow.Proofs.Program.Subgraph
import NestedFlow.Proofs.Program.Subtree
import NestedFlow.Proofs.Program.Transitions
import NestedFlow.Proofs.Program.Violations
import NestedFlow.Proofs.Program.Wired
import NestedFlow.Proofs.Program.Wiring
import NestedFlow.Proofs.Reachability
import NestedFlow.Proofs.Report
import NestedFlow.Proofs.Scoping
import NestedFlow.Proofs.Substitution
import NestedFlow.Proofs.Table
import NestedFlow.Proofs.Text.Digit
import NestedFlow.Proofs.Typing
import NestedFlow.Signature
import NestedFlow.SortedList
import NestedFlow.Storage
import NestedFlow.Substitution
import NestedFlow.Table
import NestedFlow.Text.Blank
import NestedFlow.Text.Digit
import NestedFlow.Text.Encoding
import NestedFlow.Text.Identifier
import NestedFlow.Text.Printable
import NestedFlow.Text.Quoted
import NestedFlow.Text.Range
import NestedFlow.Text.Reading
import NestedFlow.Text.Surrogate
import NestedFlow.Toml.Reader
import NestedFlow.Toml.Scalar
import NestedFlow.Toml.Table
import NestedFlow.Ty
import NestedFlow.Typing
import NestedFlow.Value
