import NestedFlow.Console.Grid
import NestedFlow.Console.Markup
import NestedFlow.Program.Validation

/-! Text views of programs and of reports, on a console of a fixed width. -/

set_option autoImplicit false

namespace NestedFlow

/-- The columns of the console. -/
def consoleWidth : Nat := 400

/-- The style of the operations of a class. -/
def OpTag.style (tag : OpTag) : String :=
  if OpTag.function.isSuperset tag || OpTag.scopedDefn.isSuperset tag then "magenta"
  else if OpTag.controlFlowChild.isSuperset tag then "yellow"
  else if OpTag.dataflowParent.isSuperset tag then "blue"
  else if OpTag.dataflowOp.isSuperset tag then "green"
  else "cyan"

namespace Program

/-- Text in a style. The text keeps its brackets, unless backslashes before them say otherwise. -/
def styled (style : String) (text : String) : String :=
  "[" ++ style ++ "]" ++ String.ofList (Console.escape text.toList) ++ "[/" ++ style ++ "]"

/-- The index, the operation and the signature of a node, with marks for their styles. -/
def markup (program : Program) (node : Node) : Outcome String := do
  let op ← program.op node
  let name := "[dim]" ++ toString node.index ++ "[/dim] " ++ styled op.opTag.style op.name
  let name := if node = program.root then "[bold]" ++ name ++ "[/bold]" else name
  pure (match op.signature? with
    | some signature => name ++ " " ++ styled "dim" signature.text
    | none => name)

/-- A tree of labels, as lines. -/
inductive Outline where
  | item (label : Console.Line) (below : List Outline)

namespace Outline

/-- The lines of a label at some depth. The first one has one lead, the others have that of the lines below. -/
def labelLines (depth : Nat) (lead below label : Console.Line) : List Console.Line :=
  match Console.wrap .ragged .fold (consoleWidth - 4 * depth) label with
  | [] => []
  | first :: rest => (lead ++ first) :: rest.map (below ++ ·)

mutual

/-- The label has one lead, the lines below it have another. -/
def lines (depth : Nat) (lead below : Console.Line) : Outline → List Console.Line
  | .item label items => labelLines depth lead below label ++ itemLines (depth + 1) below items

def itemLines (depth : Nat) (lead : Console.Line) : List Outline → List Console.Line
  | [] => []
  | [last] => lines depth (lead ++ "└── ".toList) (lead ++ "    ".toList) last
  | first :: rest =>
    lines depth (lead ++ "├── ".toList) (lead ++ "│   ".toList) first ++ itemLines depth lead rest

end

end Outline

/-- The outline below a node; no tree is deeper than the program has nodes. -/
def outline (program : Program) : Nat → Node → Outcome Outline
  | 0, node => do
    let label ← program.markup node
    pure (.item (Console.seen label.toList) [])
  | depth + 1, node => do
    let label ← program.markup node
    let children ← program.children node
    let items ← children.mapM (program.outline depth)
    pure (.item (Console.seen label.toList) items)

/-- The tree under the root, with a label for every node. -/
def render (program : Program) : Outcome (List String) := do
  let outline ← program.outline (program.hierarchy.parents.size + 1) program.root
  pure (Console.printed consoleWidth (outline.lines 0 [] []))

end Program

/-! ### Reports -/

namespace Report

def shown (text : String) : Console.Line := Console.seen text.toList

/-- Messages keep their brackets. -/
def message (text : String) : Console.Line := Console.seen (Console.escape text.toList)

/-- A table of violations with their number, or a note that there are none. -/
def table (violations : List Diagnostic) : List String :=
  if violations.isEmpty then ["✓ No violations"]
  else
    let place (violation : Diagnostic) : String := (violation.place.map Place.text).getD "-"
    let columns : List Console.Column := [
      ⟨.right, shown "Node" :: violations.map fun violation => shown (place violation)⟩,
      ⟨.left, shown "Error" :: violations.map fun violation => shown violation.kind⟩,
      ⟨.left, shown "Message" :: violations.map fun violation => message violation.message⟩]
    Console.printed consoleWidth (Console.grid consoleWidth columns) ++
      ["", "Total: " ++ toString violations.length ++ " violations"]

end Report

end NestedFlow
