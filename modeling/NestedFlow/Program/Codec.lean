import NestedFlow.Document.Decode
import NestedFlow.Document.Export
import NestedFlow.Document.Reader
import NestedFlow.Json.Reader

/-! The external form of programs.

The root comes first, with its tree in pre-order, and then the trees that are attached to nothing. Decoding rebuilds
exactly what was encoded, also if it is not well formed. It resolves all operations before it builds anything.
-/

set_option autoImplicit false

namespace NestedFlow

namespace Program

/-! ### Encoding -/

def encodingOrder (program : Program) : Outcome (List Node) := do
  let tree ← program.descendants program.root
  let detached ← program.graph.nodes.mapM fun node => do
    if node = program.root then pure []
    else
      match ← program.parent? node with
      | none => program.descendants node
      | some _ => pure []
  pure (tree ++ detached.flatten)

/-- The position of every node in an order. -/
def positions (order : List Node) : Table Node Nat := .ofList order.zipIdx

def positionOf (positions : Table Node Nat) (node : Node) : Outcome Nat := require (positions.get? node) .key

def encodeNode (program : Program) (positions : Table Node Nat) (node : Node) : Outcome NodeDoc := do
  let parent ← program.parent? node
  let metadata ← program.metadataOf node
  let parentPosition ← match parent with
    | none => pure none
    | some parent => do
      let position ← positionOf positions parent
      pure (some (position : Int))
  let op ← program.op node
  let doc ← op.encode
  pure ⟨parentPosition, doc, if metadata.isEmpty then none else some metadata.entries⟩

def encodeEdge (positions : Table Node Nat) (edge : Edge) : Outcome EdgeDoc := do
  let source ← positionOf positions edge.source.node
  let target ← positionOf positions edge.target.node
  pure ⟨(source, edge.source.offset), (target, edge.target.offset), edge.kind⟩

def encode (program : Program) : Outcome ProgramDoc := do
  let order ← program.encodingOrder
  let positions := positions order
  let nodes ← order.mapM (program.encodeNode positions)
  let edges ← order.mapM fun node => do
    let edges ← program.graph.edges node (some .outgoing) none
    edges.mapM (encodeEdge positions)
  pure ⟨nodes, edges.flatten⟩

/-- The program as data; fields without a value are left out. -/
def toJson (program : Program) : Outcome Json := do
  let doc ← program.encode
  exported doc.nesting (doc.toJson .compact)

def toText (program : Program) (indent : Option Int) : Outcome String := do
  let doc ← program.encode
  written doc.textNesting (doc.toJson .compact) indent

end Program

/-! ### Decoding -/

/-- An error at a position of a document. -/
def failAtPosition {α : Type} (position : Int) (fault : Fault) : Outcome α :=
  .error ⟨fault.checked, some (.position position)⟩

/-- Report an error as one of the document at a position; breakdowns are not errors of the document. -/
def relay {α : Type} (position : Int) (word : String → DocumentFault) (outcome : Outcome α) : Outcome α :=
  match outcome with
  | .ok value => pure value
  | .error error =>
    if error.fault.checked.isBreakdown then .error ⟨error.fault.checked, error.place⟩
    else failAtPosition position (.document (word error.fault.message))

namespace ProgramDoc

/-- The operation of a node. What an extension lacks is reported as such. -/
def decodeOp (registry : Registry) (node : NodeDoc × Nat) : Outcome Op :=
  match node.1.op.decode registry with
  | .ok op => pure op
  | .error error =>
    match error.fault with
    | .extensionNotFound extension => failAtPosition node.2 (.extensionNotFound extension)
    | .operationNotFound extension operation => failAtPosition node.2 (.operationNotFound extension operation)
    | _ => relay node.2 .operation (.error error)

def decodeMetadata (program : Program) (node : Node) (doc : NodeDoc) : Outcome Program :=
  (doc.metadata.getD []).foldlM
    (fun program (key, value) => (Program.setMetadata node key value).after program) program

/-- Give a node its metadata and its parent. -/
def decodeNode (nodes : List Node) (program : Program) (node : NodeDoc × Nat) : Outcome Program := do
  let (doc, position) := node
  let live ← require nodes[position]? .position
  let program ← decodeMetadata program live doc
  match doc.parent with
  | none => pure program
  | some index =>
    if index < 0 then failAtPosition position (.document (.parentRange index))
    else
      match nodes[index.toNat]? with
      | none => failAtPosition position (.document (.parentRange index))
      | some parent => relay position .relayed ((Program.setParent live parent).after program)

/-- The node at one end of an edge. -/
def edgeEnd (nodes : List Node) (edge : EdgeDoc) (position : Int) : Outcome Node :=
  let absent : Outcome Node := failAtPosition position (.document (.absentEnd edge.source edge.target))
  if position < 0 then absent
  else
    match nodes[position.toNat]? with
    | some node => pure node
    | none => absent

/-- Add an edge without looking at kinds and types. -/
def decodeEdge (nodes : List Node) (program : Program) (edge : EdgeDoc) : Outcome Program := do
  let source ← edgeEnd nodes edge edge.source.1
  let target ← edgeEnd nodes edge edge.target.1
  let change : Change Program Unit := do
    let _ ← Program.onGraph
      (PortGraph.connect (source.outputPort edge.source.2) (target.inputPort edge.target.2) edge.kind)
  relay edge.source.1 .relayed (change.after program)

/-- Add the nodes of some operations. -/
def addNodes : List Op → Change Program (List Node)
  | [] => pure []
  | op :: rest => do
    let node ← Program.addNode op
    let nodes ← addNodes rest
    pure (node :: nodes)

def decode (registry : Registry) (doc : ProgramDoc) : Outcome Program := do
  if doc.nodes.isEmpty then fail (.document .noNodes)
  else
    let ops ← doc.nodes.zipIdx.mapM (decodeOp registry)
    match doc.nodes, ops with
    | first :: _, rootOp :: rest =>
      if first.parent.isSome then failAtPosition 0 (.document .rootParent)
      else
        let start := Program.ofRoot rootOp
        match addNodes rest start with
        | .error error _ => .error error
        | .ok added program =>
          let nodes := start.root :: added
          let program ← doc.nodes.zipIdx.foldlM (decodeNode nodes) program
          doc.edges.foldlM (decodeEdge nodes) program
    | _, _ => fail (.document .noNodes)

end ProgramDoc

namespace Program

/-- A program from data: the version is checked first, then the shape of the whole document. -/
def ofJson (registry : Registry) (data : Json) : Outcome Program :=
  match data with
  | .obj fields =>
    let version := (Json.field? "version" fields).getD .null
    if version.alike (.str documentVersion) then
      match ProgramDoc.ofFields? fields with
      | some doc => doc.decode registry
      | none =>
        match ProgramDoc.firstBad? fields with
        | some position => failAtPosition position (.document .malformed)
        | none => fail (.document .malformed)
    else fail (Fault.unsupportedVersion version).checked
  | other => fail (.document (.notObject other))

/-- A program from what was read of a text. -/
def ofReading (registry : Registry) (reading : Reading Json) : Outcome Program := do
  let data ← reading.orFail (.document .notText)
  ofJson registry data

def ofText (registry : Registry) (text : String) : Outcome Program := ofReading registry (Json.ofText text)

end Program

end NestedFlow
