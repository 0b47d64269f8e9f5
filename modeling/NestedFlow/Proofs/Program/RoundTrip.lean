import Mathlib.Algebra.Group.Int.Defs
import NestedFlow.Document.Export
import NestedFlow.Proofs.Document.Reading
import NestedFlow.Proofs.Document.Resolution
import NestedFlow.Proofs.Program.Decoding
import NestedFlow.Proofs.Program.Invariance

/-! Programs that are recovered from their external form. -/

set_option autoImplicit false

namespace NestedFlow

/-! ### Data of constants -/

mutual

/-- The data of all values is portable. -/
def Value.IsPortable : Value → Prop
  | .sum _ values => Value.ArePortable values
  | .tuple values => Value.ArePortable values
  | .extension _ payload => payload.IsPortable
  | .raw data => data.IsPortable

def Value.ArePortable : List Value → Prop
  | [] => True
  | value :: rest => Value.IsPortable value ∧ Value.ArePortable rest

end

mutual

theorem Value.isPortable_encode : ∀ {value : Value} {doc : ValueDoc}, value.IsPortable → value.encode = .ok doc →
    doc.IsPortable
  | .sum tag values, doc, kept, encoded => by
    rw [Value.IsPortable] at kept
    rw [Value.encode, Outcome.bind_eq_ok_iff] at encoded
    obtain ⟨docs, all, same⟩ := encoded
    cases same
    rw [ValueDoc.IsPortable]
    exact Value.arePortable_encodeAll kept all
  | .tuple values, doc, kept, encoded => by
    rw [Value.IsPortable] at kept
    rw [Value.encode, Outcome.bind_eq_ok_iff] at encoded
    obtain ⟨docs, all, same⟩ := encoded
    cases same
    rw [ValueDoc.IsPortable]
    exact Value.arePortable_encodeAll kept all
  | .extension typ payload, doc, kept, encoded => by
    rw [Value.IsPortable] at kept
    rw [Value.encode] at encoded
    cases encoded
    rwa [ValueDoc.IsPortable]
  | .raw data, doc, _, encoded => by
    rw [Value.encode] at encoded
    cases encoded

theorem Value.arePortable_encodeAll : ∀ {values : List Value} {docs : List ValueDoc}, Value.ArePortable values →
    Value.encodeAll values = .ok docs → ValueDoc.ArePortable docs
  | [], docs, _, encoded => by
    rw [Value.encodeAll] at encoded
    cases encoded
    rw [ValueDoc.ArePortable]
    trivial
  | value :: rest, docs, kept, encoded => by
    rw [Value.ArePortable] at kept
    rw [Value.encodeAll, Outcome.bind_eq_ok_iff] at encoded
    obtain ⟨doc, first, further⟩ := encoded
    obtain ⟨others, all, same⟩ := Outcome.bind_eq_ok_iff.1 further
    cases same
    rw [ValueDoc.ArePortable]
    exact ⟨Value.isPortable_encode kept.1 first, Value.arePortable_encodeAll kept.2 all⟩

end

/-- The data of a constant is portable. -/
def Op.IsPortable : Op → Prop
  | .const value _ => value.IsPortable
  | _ => True

theorem Op.isPortable_encode {op : Op} {doc : OpDoc} (kept : op.IsPortable) (encoded : op.encode = .ok doc) :
    doc.IsPortable := by
  cases op with
  | const value typ =>
    obtain ⟨valueDoc, first, same⟩ := Outcome.bind_eq_ok_iff.1 encoded
    cases same
    exact Value.isPortable_encode kept first
  | _ =>
    cases encoded
    trivial

/-! ### The limits of the external form -/

/-- The external form can hold a document: its parts are not nested too deeply, its numbers have few enough digits, and
its keys are made of characters alone. -/
structure ProgramDoc.Fits (doc : ProgramDoc) : Prop where
  nesting : doc.nesting ≤ maxNesting
  writable : (doc.toJson .compact).isWritable = true
  plainKeys : (doc.toJson .compact).hasPlainKeys = true

/-- The keys of metadata are made of characters alone, so that none is changed where it is written. -/
def ProgramDoc.KeepsKeys (doc : ProgramDoc) : Prop :=
  ∀ node ∈ doc.nodes, ∀ fields, node.metadata = some fields → ∀ field ∈ fields, Text.withoutHalves field.1 = field.1

theorem ProgramDoc.fits_iff {doc : ProgramDoc} {data : Json} :
    exported doc.nesting (doc.toJson .compact) = .ok data ↔ doc.Fits ∧ data = doc.toJson .compact := by
  rw [exported]
  constructor
  · intro written
    split at written
    · rename_i small
      rw [Bool.and_eq_true, decide_eq_true_iff] at small
      split at written
      · rename_i plain
        cases written
        exact ⟨⟨small.1, small.2, plain⟩, rfl⟩
      · cases written
    · cases written
  · rintro ⟨fits, rfl⟩
    simp only [fits.nesting, fits.writable, fits.plainKeys, decide_true, Bool.and_self, if_true]
    rfl

/-- What is written for a document is read as that document. -/
theorem Program.ofJson_toJson {doc : ProgramDoc} (registry : Registry) (fits : doc.Fits)
    (kept : ∀ node ∈ doc.nodes, node.op.IsPortable) :
    Program.ofJson registry (doc.toJson .compact) = doc.written.decode registry := by
  have version : ((Json.field? "version" doc.jsonFields).getD .null).alike (.str documentVersion) = true := by
    rw [ProgramDoc.jsonFields, Json.field?]
    simp [Json.alike]
  rw [ProgramDoc.toJson_eq]
  simp only [Program.ofJson, version, if_true, ProgramDoc.ofFields?_jsonFields fits.nesting kept]

namespace Program

/-! ### Programs -/

/-- Everything that operations refer to is resolved, and the data of constants and the metadata is portable. -/
structure Recoverable (registry : Registry) (program : Program) : Prop where
  resolved : ∀ node op, program.ops.get? node = some op → op.Resolved registry
  payloads : ∀ node op, program.ops.get? node = some op → op.IsPortable
  metadata : ∀ node key value, (program.metadata.getD node ∅).get? key = some value → value.IsPortable

/-- The second program is the first one with other identities of nodes and edges. Its nodes have the order in which the
nodes of the first one are encoded. -/
structure Isomorphic (rename : Node → Node) (program copy : Program) : Prop where
  order : ∃ order, program.encodingOrder = .ok order ∧ copy.graph.nodes = order.map rename
  root : copy.root = rename program.root
  op : ∀ node, program.contains node = true → copy.op (rename node) = program.op node
  metadata : ∀ node, program.contains node = true → copy.metadataOf (rename node) = program.metadataOf node
  parent : ∀ node parent, program.parent? node = .ok parent → copy.parent? (rename node) = .ok (parent.map rename)
  children : ∀ node children, program.children node = .ok children →
    copy.children (rename node) = .ok (children.map rename)
  outgoing : ∀ node offset edges, program.portEdges (node.outputPort offset) = .ok edges →
    ∃ images, copy.portEdges ((rename node).outputPort offset) = .ok images ∧
      images.map (Edge.shape id) = edges.map (Edge.shape rename)
  incoming : ∀ node offset edges, program.portEdges (node.inputPort offset) = .ok edges →
    ∃ images, copy.portEdges ((rename node).inputPort offset) = .ok images ∧
      (images.map (Edge.shape id)).Perm (edges.map (Edge.shape rename))

/-- What is written for a program is read as that program, and as well formed as it is. -/
def IsRecovered (registry : Registry) (program : Program) : Prop :=
  ∃ data copy rename, program.toJson = .ok data ∧ ofJson registry data = .ok copy ∧ Isomorphic rename program copy ∧
    ∀ requirements, (copy.validate registry requirements).Empty ↔ (program.validate registry requirements).Empty

variable {program copy : Program} {kids others : Node → List Node}

theorem Mirrors.isomorphic {rename : Node → Node} (mirrors : Mirrors rename program copy)
    (agrees : program.AgreesOn kids) (same : copy.AgreesOn others)
    (nodes : copy.graph.nodes = program.order.map rename)
    (metadata : ∀ node, program.graph.contains node = true →
      copy.metadata.getD (rename node) ∅ = program.metadata.getD node ∅) : Isomorphic rename program copy := by
  have hasPort : ∀ {node direction offset}, program.graph.HasPort ⟨node, direction, offset⟩ →
      copy.graph.HasPort ⟨rename node, direction, offset⟩ := by
    intro node direction offset has
    refine ⟨has.1, ?_⟩
    change offset < ((copy.graph.portsOf (rename node) direction).length : Int)
    rw [mirrors.length_portsOf agrees same (PortGraph.contains_of_hasPort has)]
    exact has.2
  constructor
  case order => exact ⟨program.order, agrees.encodingOrder_eq, nodes⟩
  case root => exact mirrors.root
  case op =>
    intro node live
    rw [agrees.contains_eq] at live
    exact mirrors.op_eq agrees same live
  case metadata =>
    intro node live
    rw [agrees.contains_eq] at live
    rw [agrees.metadataOf_eq live, same.metadataOf_eq (mirrors.live_rename live), metadata node live]
  case parent =>
    intro node parent asked
    obtain ⟨_, checked, found⟩ := Outcome.bind_eq_ok_iff.1 asked
    have live := agrees.checkNode_eq_ok_iff.1 checked
    cases found
    rw [same.parent?_eq (mirrors.live_rename live), mirrors.parent?_rename agrees same live]
  case children =>
    intro node children asked
    obtain ⟨_, checked, found⟩ := Outcome.bind_eq_ok_iff.1 asked
    have live := agrees.checkNode_eq_ok_iff.1 checked
    cases found
    rw [same.children_eq (mirrors.live_rename live), mirrors.kids_rename agrees same live, agrees.stores.children_eq]
  case outgoing =>
    intro node offset edges asked
    obtain ⟨has, rfl⟩ := agrees.portEdges_eq_ok_iff.1 asked
    exact ⟨_, same.portEdges_eq (hasPort has), mirrors.outgoing node (PortGraph.contains_of_hasPort has) offset⟩
  case incoming =>
    intro node offset edges asked
    obtain ⟨has, rfl⟩ := agrees.portEdges_eq_ok_iff.1 asked
    exact ⟨_, same.portEdges_eq (hasPort has), mirrors.incoming node (PortGraph.contains_of_hasPort has) offset⟩

/-- The nodes of the copy stand in the order of the document. -/
theorem Built.nodes_eq {target : Node → Op} {docs : Node → NodeDoc} {done : List Node} {edges : List Edge}
    (agrees : program.AgreesOn kids) (built : Built program target docs done edges copy) :
    copy.graph.nodes = program.order.map program.place := by
  have places : program.order.map program.place = (List.range program.order.length).map Node.first := by
    apply List.ext_getElem
    · simp
    · intro index inside _
      have bound : index < program.order.length := by simpa using inside
      rw [List.getElem_map, List.getElem_map, List.getElem_range, place, position,
        agrees.nodup_order.idxOf_getElem]
  have sorted : (program.order.map program.place).Pairwise fun first second => first.index < second.index := by
    rw [places, List.pairwise_map]
    exact List.pairwise_lt_range.imp fun {first second} before => Int.ofNat_lt.2 before
  -- the same nodes, by ascending indices on both sides
  apply List.Perm.eq_of_pairwise _ copy.graph.pairwise_nodes sorted
  · rw [List.perm_ext_iff_of_nodup copy.graph.nodup_nodes]
    · intro node
      rw [PortGraph.mem_nodes, built.live_iff, List.mem_map]
      simp only [agrees.mem_order, eq_comm]
    · exact sorted.imp fun {first second} before same => by rw [same] at before; exact Int.lt_irrefl _ before
  · exact fun first second _ _ before after => absurd (Int.lt_trans before after) (Int.lt_irrefl _)

/-! ### The round trip -/

/-- The part of the document that is read for a node. -/
def writtenDoc (program : Program) (ops : Node → OpDoc) (node : Node) : NodeDoc := (program.nodeDoc ops node).written

theorem parented_writtenDoc (program : Program) (ops : Node → OpDoc) : program.Parented (program.writtenDoc ops) :=
  fun _ => rfl

theorem written_eq (program : Program) (ops : Node → OpDoc) :
    ProgramDoc.written ⟨program.order.map (program.nodeDoc ops), program.allEdges.map program.edgeDoc⟩ =
      program.docWith (program.writtenDoc ops) := by
  rw [ProgramDoc.written, docWith, List.map_map]
  rfl

/-- Portable metadata is written as it is, if its keys are kept. -/
theorem metadata_writtenDoc {program : Program} {ops : Node → OpDoc} {node : Node}
    (portable : ∀ key value, (program.metadata.getD node ∅).get? key = some value → value.IsPortable)
    (keeps : ∀ fields, (program.nodeDoc ops node).metadata = some fields →
      ∀ field ∈ fields, Text.withoutHalves field.1 = field.1) :
    Table.ofList ((program.writtenDoc ops node).metadata.getD []) = program.metadata.getD node ∅ := by
  rw [nodeDoc] at keeps
  rw [writtenDoc, NodeDoc.written, nodeDoc]
  generalize program.metadata.getD node ∅ = table at portable keeps
  apply Table.ext
  cases empty : table.isEmpty with
  | true => exact (List.isEmpty_iff.1 empty).symm
  | false =>
    have plain : ∀ field ∈ table.entries, Text.withoutHalves field.1 = field.1 :=
      keeps table.entries (by simp [empty])
    have kept : Json.AreFieldsPortable table.entries := Json.areFieldsPortable_iff.2 fun field mem =>
      portable field.1 field.2 ((table.get?_eq_some_iff field.1 field.2).2 mem)
    simp only [Bool.false_eq_true, if_false, Option.map_some, Option.getD_some,
      Json.freeFields_eq plain kept table.nodup]
    exact Table.entries_ofList table.nodup

/-- The edges of a program fit its own operations. -/
theorem AgreesOn.fit {target : Node → Op} (agrees : program.AgreesOn kids)
    (same : ∀ node op, program.ops.get? node = some op → target node = op) : Fit target program.allEdges := by
  intro edge mem direction
  obtain ⟨link, recorded, isEdge⟩ := agrees.mem_allEdges.1 mem
  have isEnd : edge.port direction = link.port direction := by rw [isEdge, link.port_edge]
  have has := PortGraph.hasPort_of_mem_idsAt (agrees.graph.mem_idsAt recorded direction)
  obtain ⟨op, found⟩ := agrees.get?_of_contains (PortGraph.contains_of_hasPort has)
  rw [isEnd, same _ op found, ← agrees.portTotals _ op found direction]
  exact has.2

/-- Resolved operations have documents from which they are read. -/
theorem exists_docs_of_resolved {registry : Registry}
    (resolved : ∀ node op, program.ops.get? node = some op → op.Resolved registry) :
    ∃ ops : Node → OpDoc, ∀ node op, program.ops.get? node = some op →
      op.encode = .ok (ops node) ∧ (ops node).decode registry = .ok op := by
  have each : ∀ node, ∃ doc, ∀ op, program.ops.get? node = some op →
      op.encode = .ok doc ∧ doc.decode registry = .ok op := by
    intro node
    cases found : program.ops.get? node with
    | none => exact ⟨.moduleRoot, fun op none => nomatch none⟩
    | some op =>
      obtain ⟨doc, encoded, decoded⟩ := Op.decode_encode (resolved node op found)
      exact ⟨doc, fun other same => by cases same; exact ⟨encoded, decoded⟩⟩
  choose ops holds using each
  exact ⟨ops, holds⟩

theorem toJson_eq_ok_iff {doc : ProgramDoc} {data : Json} (encoded : program.encode = .ok doc) :
    program.toJson = .ok data ↔ doc.Fits ∧ data = doc.toJson .compact := by
  rw [toJson, encoded]
  exact ProgramDoc.fits_iff

/-- What was written for a program is read back, part by part. -/
theorem AgreesOn.ofJson_eq {registry : Registry} (agrees : program.AgreesOn kids) {ops : Node → OpDoc}
    (portable : ∀ node op, program.ops.get? node = some op → op.IsPortable)
    (encoded : ∀ node op, program.ops.get? node = some op → op.encode = .ok (ops node))
    (fits : ProgramDoc.Fits ⟨program.order.map (program.nodeDoc ops), program.allEdges.map program.edgeDoc⟩) :
    ofJson registry (ProgramDoc.toJson .compact
      ⟨program.order.map (program.nodeDoc ops), program.allEdges.map program.edgeDoc⟩) =
        (program.docWith (program.writtenDoc ops)).decode registry := by
  rw [ofJson_toJson registry fits, written_eq]
  intro doc mem
  obtain ⟨node, isNode, rfl⟩ := List.mem_map.1 mem
  obtain ⟨op, found⟩ := agrees.get?_of_contains (agrees.mem_order.1 isNode)
  exact Op.isPortable_encode (portable node op found) (encoded node op found)

/-- A region with a name, whose output comes after its input. -/
def ordered : Program :=
  (Edit.setMetadata ⟨0, 0⟩ "name" (.str "ordered")).apply ((Edit.addOrder ⟨1, 0⟩ ⟨2, 0⟩).apply
    ((Edit.addChild ⟨0, 0⟩ (.output [])).apply ((Edit.addChild ⟨0, 0⟩ (.input [])).apply
      (ofRoot (.dfg [] [] none)))))

theorem recoverable_ordered : ordered.Recoverable ∅ := by
  have ops : ∀ node op, ordered.ops.get? node = some op → op = .dfg [] [] none ∨ op = .input [] ∨ op = .output [] := by
    intro node op found
    have listed : ordered.ops.entries = [(⟨0, 0⟩, .dfg [] [] none), (⟨1, 0⟩, .input []), (⟨2, 0⟩, .output [])] := rfl
    rw [Table.get?_eq_some_iff, listed] at found
    simp only [List.mem_cons, Prod.mk.injEq, List.not_mem_nil, or_false] at found
    exact found.imp And.right (Or.imp And.right And.right)
  constructor
  · intro node op found
    rcases ops node op found with rfl | rfl | rfl
    · exact ⟨trivial, trivial, fun set none => nomatch none⟩
    · exact trivial
    · exact trivial
  · intro node op found
    rcases ops node op found with rfl | rfl | rfl <;> exact trivial
  · intro node key value found
    rw [Table.getD_eq] at found
    cases described : ordered.metadata.get? node with
    | none =>
      rw [described] at found
      cases found
    | some table =>
      have listed : ordered.metadata.values.map Table.values = [[.str "ordered"]] := rfl
      have among : table.values ∈ ordered.metadata.values.map Table.values :=
        List.mem_map_of_mem (List.mem_map_of_mem ((Table.get?_eq_some_iff _ _ _).1 described))
      rw [described, Option.getD_some, Table.get?_eq_some_iff] at found
      rw [listed, List.mem_singleton] at among
      have isValue : value ∈ table.values := List.mem_map_of_mem found
      rw [among, List.mem_singleton] at isValue
      rw [isValue, Json.IsPortable] <;> simp

/-- A program that meets the conditions and is not recovered. -/
def IsLost (program : Program) : Prop := Reachable program ∧ program.Recoverable ∅ ∧ ¬ program.IsRecovered ∅

theorem not_isRecovered_of_refused {registry : Registry} (refused : program.toJson.isOk = false) :
    ¬ program.IsRecovered registry := by
  rintro ⟨data, -, -, written, -⟩
  rw [written] at refused
  cases refused

/-- Tuples in each other. -/
def tower : Nat → Ty
  | 0 => .tuple []
  | levels + 1 => .tuple [tower levels]

theorem resolved_tower (registry : Registry) (levels : Nat) : (tower levels).Resolved registry := by
  induction levels with
  | zero =>
    rw [tower, Ty.Resolved, Row.Resolved]
    trivial
  | succ levels ih =>
    rw [tower, Ty.Resolved, Row.Resolved, Row.Resolved]
    exact ⟨ih, trivial⟩

theorem recoverable_ofRoot {registry : Registry} {op : Op} (resolved : op.Resolved registry) (portable : op.IsPortable) :
    (ofRoot op).Recoverable registry := by
  have only : ∀ node other, (ofRoot op).ops.get? node = some other → other = op := by
    intro node other found
    rw [ofRoot, Table.get?_insert_eq] at found
    split at found
    · exact (Option.some.inj found).symm
    · cases found
  constructor
  · exact fun node other found => only node other found ▸ resolved
  · exact fun node other found => only node other found ▸ portable
  · intro node key value found
    cases found

/-- A module with an entry of metadata. -/
def named (key : String) (value : Json) : Program := (Edit.setMetadata ⟨0, 0⟩ key value).apply (ofRoot .moduleRoot)

theorem recoverable_named {registry : Registry} (key : String) {value : Json} (portable : value.IsPortable) :
    (named key value).Recoverable registry := by
  obtain ⟨resolved, payloads, -⟩ := @recoverable_ofRoot registry .moduleRoot trivial trivial
  refine ⟨resolved, payloads, fun node other found get => ?_⟩
  change (((∅ : Table Node (Table String Json)).insert ⟨0, 0⟩ ((∅ : Table String Json).insert key value)).getD node
    ∅).get? other = some found at get
  rw [Table.getD_eq, Table.get?_insert_eq] at get
  split at get
  · rw [Option.getD_some, Table.get?_insert_eq] at get
    split at get
    · rwa [← Option.some.inj get]
    · cases get
  · cases get

/-- A text that is half of a surrogate pair. -/
def half : String := String.ofList (Text.spell 0xD800)

/-- In a key of metadata a half is replaced. -/
theorem not_isRecovered_half : ¬ (named half .null).IsRecovered ∅ := by
  rintro ⟨data, copy, rename, written, read, same, -⟩
  have replaced : ((named half .null).toJson >>= fun data => ofJson ∅ data >>= fun copy =>
      copy.metadataOf copy.root).map Table.keys = .ok [Text.withoutHalves half] := rfl
  have kept : ((named half .null).metadataOf (named half .null).root).map Table.keys = .ok [half] := rfl
  rw [written, Outcome.ok_bind, read, Outcome.ok_bind, same.root, same.metadata _ rfl, kept, Except.ok.injEq,
    List.cons.injEq] at replaced
  exact absurd replaced.1 (by decide)

end Program

end NestedFlow
