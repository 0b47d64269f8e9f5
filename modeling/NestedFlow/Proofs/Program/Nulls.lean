import NestedFlow.Proofs.Document.Reencoding
import NestedFlow.Proofs.Program.Reencoding

/-! Programs in tables.

A table has no null, so the null fields of the data of a program are lost in it. The program is still read from it,
and its free data has lost its null fields, at any depth, and nothing else has changed.
-/

set_option autoImplicit false

namespace NestedFlow

open Json (Kindred)

/-! ### The limits of the external form -/

namespace ProgramDoc

variable {doc : ProgramDoc}

theorem Fits.withoutNulls (fits : doc.Fits) (kept : ∀ node ∈ doc.nodes, node.op.IsPortable) :
    doc.written.withoutNulls.Fits where
  nesting := nesting_map_le (fun node _ => node.nesting_withoutNulls_le)
    (nesting_map_le (fun node _ => node.nesting_written_le) fits.nesting)
  writable := by
    rw [← withoutNulls_toJson kept]
    exact Json.partwise_isWritable.withoutNulls fits.writable
  plainKeys := by
    rw [← withoutNulls_toJson kept]
    exact Json.partwise_hasPlainKeys.withoutNulls fits.plainKeys

theorem Fits.tidied (fits : doc.Fits) : doc.tidied.Fits where
  nesting := nesting_map_le (fun node _ => Nat.le_of_eq node.nesting_tidied) fits.nesting
  writable := good_map Json.partwise_isWritable (fun _ _ => NodeDoc.good_tidied Json.partwise_isWritable) fits.writable
  plainKeys :=
    good_map Json.partwise_hasPlainKeys (fun _ _ => NodeDoc.good_tidied Json.partwise_hasPlainKeys) fits.plainKeys

/-- A document whose metadata stands as it is written is written as it is. -/
theorem written_eq (free : ∀ node ∈ doc.nodes, node.IsFree) : doc.written = doc := by
  have same : doc.nodes.map NodeDoc.written = doc.nodes := by
    rw [List.map_congr_left fun node mem => (free node mem).written_eq, List.map_id']
  rw [written, same]

end ProgramDoc

namespace Program

variable {program copy : Program} {kids : Node → List Node} {docs : Node → NodeDoc} {registry : Registry}
  {ops outs : Node → OpDoc}

/-- What holds of the parts of all nodes holds of all parts of the document. -/
theorem AgreesOn.forall_docWith (agrees : program.AgreesOn kids) {good : NodeDoc → Prop}
    (each : ∀ node, program.graph.contains node = true → good (docs node)) :
    ∀ part ∈ (program.docWith docs).nodes, good part := by
  rw [docWith, List.forall_mem_map]
  exact fun node isNode => each node (agrees.mem_order.1 isNode)

/-! ### The parts of both documents -/

/-- What is written for the operations that were read for the parts of a program. -/
def Reencodes (registry : Registry) (program : Program) (ops outs : Node → OpDoc) : Prop :=
  ∀ node, program.graph.contains node = true →
    (ops node).Reencoded registry (readOp registry (program.writtenDoc ops) node) (outs node)

theorem exists_reencodes (reads : program.Reads registry (program.writtenDoc ops))
    (kept : ∀ node, program.graph.contains node = true → (ops node).IsPortable) :
    ∃ outs, program.Reencodes registry ops outs := by
  have each : ∀ node, ∃ out, program.graph.contains node = true →
      (ops node).Reencoded registry (readOp registry (program.writtenDoc ops) node) out := by
    intro node
    by_cases live : program.graph.contains node = true
    · obtain ⟨op, decoded⟩ := reads node live
      obtain ⟨out, reencoded⟩ := OpDoc.exists_reencoded (kept node live) decoded
      refine ⟨out, fun _ => ?_⟩
      rwa [readOp_of_decode decoded]
    · exact ⟨.moduleRoot, fun held => absurd held live⟩
  choose outs holds using each
  exact ⟨outs, holds⟩

theorem metadata_nodeDoc_ne (program : Program) (ops : Node → OpDoc) (node : Node) :
    (program.nodeDoc ops node).metadata ≠ some [] := by
  rw [nodeDoc]
  generalize program.metadata.getD node ∅ = table
  cases empty : table.isEmpty with
  | true => simp
  | false =>
    intro same
    rw [Table.isEmpty, Option.some.inj same] at empty
    cases empty

theorem tidied_withoutNulls_rewritten (docs : Node → NodeDoc) (outs : Node → OpDoc) (node : Node) :
    (rewritten docs outs node).withoutNulls.tidied =
      rewritten (fun node => (docs node).withoutNulls) (fun node => (outs node).withoutNulls) node := by
  rw [rewritten, rewritten]
  generalize docs node = part
  obtain ⟨parent, op, metadata⟩ := part
  cases metadata with
  | none => rfl
  | some fields => cases fields <;> rfl

namespace AgreesOn

variable (agrees : program.AgreesOn kids) (reencodes : program.Reencodes registry ops outs)

include agrees reencodes

/-- The copy has kindred data, -/
theorem kindred_rewritten :
    Kindred ((program.docWith (rewritten (program.writtenDoc ops) outs)).toJson .compact)
      ((program.docWith (program.nodeDoc ops)).toJson .compact) := by
  have nodes : Kindred
      (.arr ((program.order.map (rewritten (program.writtenDoc ops) outs)).map (NodeDoc.toJson .compact)))
      (.arr ((program.order.map (program.nodeDoc ops)).map (NodeDoc.toJson .compact))) := by
    rw [List.map_map, List.map_map]
    refine .map fun node isNode => .record (.same (.field ?_ (.field ?_ .nil)))
    · exact (reencodes node (agrees.mem_order.1 isNode)).resembles.data
    · have same := NodeDoc.freeData_tidied (metadata_nodeDoc_ne program ops node)
      exact same ▸ .refl _
  exact .record (.same (.field nodes (.same .nil)))

/-- so that the external form can hold it as well. -/
theorem fits_rewritten (fits : (program.docWith (program.nodeDoc ops)).Fits) :
    (program.docWith (rewritten (program.writtenDoc ops) outs)).Fits := by
  have kindred := agrees.kindred_rewritten reencodes
  refine ⟨?_, (kindred.good Json.partwise_isWritable).2 fits.writable,
    (kindred.good Json.partwise_hasPlainKeys).2 fits.plainKeys⟩
  have within := fits.nesting
  rw [ProgramDoc.nesting, deepest_le_iff, docWith, List.forall_mem_map, List.forall_mem_map] at within ⊢
  intro node isNode
  have levels := (reencodes node (agrees.mem_order.1 isNode)).resembles.nesting
  have same : (rewritten (program.writtenDoc ops) outs node).nesting =
      (program.nodeDoc ops node).written.tidied.nesting := by
    rw [NodeDoc.nesting, NodeDoc.nesting, rewritten, levels]
    rfl
  rw [same, NodeDoc.nesting_tidied]
  exact Nat.le_trans (NodeDoc.nesting_written_le _) (within node isNode)

/-- Without its null fields the data is read as well, and what is written for that is the document of the copy
without them. -/
theorem exists_decoded_withoutNulls (fit : Fit (readOp registry (program.writtenDoc ops)) program.allEdges) :
    ∃ second, (program.docWith (program.writtenDoc ops)).withoutNulls.decode registry = .ok second ∧
      second.encode = .ok (program.docWith (rewritten (program.writtenDoc ops) outs)).withoutNulls.tidied := by
  have parts : (program.docWith (program.writtenDoc ops)).withoutNulls =
      program.docWith fun node => (program.writtenDoc ops node).withoutNulls := by
    rw [docWith, ProgramDoc.withoutNulls, List.map_map]
    rfl
  rw [parts]
  -- without its null fields an operation has the same ports, so that the edges fit as before
  have stripped : ∀ node, program.graph.contains node = true →
      ((program.writtenDoc ops node).withoutNulls.op.decode registry =
        .ok (readOp registry (fun node => (program.writtenDoc ops node).withoutNulls) node)) ∧
      (readOp registry (fun node => (program.writtenDoc ops node).withoutNulls) node).encode =
        .ok (outs node).withoutNulls ∧
      ∀ direction, (readOp registry (fun node => (program.writtenDoc ops node).withoutNulls) node).portCount direction =
        (readOp registry (program.writtenDoc ops) node).portCount direction := by
    intro node live
    obtain ⟨other, decoded, encoded, ports⟩ := (reencodes node live).stripped
    have isOp : readOp registry (fun node => (program.writtenDoc ops node).withoutNulls) node = other :=
      readOp_of_decode decoded
    rw [isOp]
    exact ⟨decoded, encoded, ports⟩
  have fit' : Fit (readOp registry fun node => (program.writtenDoc ops node).withoutNulls) program.allEdges := by
    intro edge mem direction
    rw [(stripped _ (agrees.ends_of_mem_allEdges mem direction).2.2).2.2]
    exact fit edge mem direction
  have parents : program.Parented fun node => (program.writtenDoc ops node).withoutNulls := fun _ => rfl
  obtain ⟨second, decoded, -⟩ :=
    agrees.decode_docWith registry parents (fun node live => ⟨_, (stripped node live).1⟩) fit'
  refine ⟨second, decoded, ?_⟩
  have free : ∀ node, (program.writtenDoc ops node).withoutNulls.IsFree :=
    fun node => (NodeDoc.isFree_written _).withoutNulls
  rw [agrees.encode_of_decode parents (fun node fields given => (free node fields given).distinct) decoded
    fun node live => (stripped node live).2.1]
  congr 1
  rw [docWith, docWith, ProgramDoc.tidied, ProgramDoc.withoutNulls, List.map_map, List.map_map]
  congr 1
  apply List.map_congr_left
  intro node _
  exact (tidied_withoutNulls_rewritten (program.writtenDoc ops) outs node).symm

/-- The data of the copy stands in its document as it is. -/
theorem forall_rewritten : ∀ part ∈ (program.docWith (rewritten (program.writtenDoc ops) outs)).nodes,
    part.IsFree ∧ part.op.IsPortable :=
  agrees.forall_docWith fun node live =>
    ⟨(NodeDoc.isFree_written (program.nodeDoc ops node)).tidied, (reencodes node live).portable⟩

theorem fits_withoutNulls_rewritten (fits : (program.docWith (program.nodeDoc ops)).Fits) :
    (program.docWith (rewritten (program.writtenDoc ops) outs)).withoutNulls.tidied.Fits := by
  have stripped := (agrees.fits_rewritten reencodes fits).withoutNulls fun _ isPart =>
    (agrees.forall_rewritten reencodes _ isPart).2
  rw [ProgramDoc.written_eq fun _ isPart => (agrees.forall_rewritten reencodes _ isPart).1] at stripped
  exact stripped.tidied

theorem not_hasNullField_rewritten :
    ¬ Json.HasNullField
      ((program.docWith (rewritten (program.writtenDoc ops) outs)).withoutNulls.tidied.toJson .compact) := by
  refine ProgramDoc.good_map Json.partwise_not_hasNullField
    (fun _ _ => NodeDoc.good_tidied Json.partwise_not_hasNullField) ?_
  have none := Json.not_hasNullField_withoutNulls
    ((program.docWith (rewritten (program.writtenDoc ops) outs)).toJson .compact)
  rw [ProgramDoc.withoutNulls_toJson fun _ isPart => (agrees.forall_rewritten reencodes _ isPart).2,
    ProgramDoc.written_eq fun _ isPart => (agrees.forall_rewritten reencodes _ isPart).1] at none
  exact none

omit reencodes in
/-- What is left of the data of a program is read part by part. -/
theorem ofJson_withoutNulls (kept : ∀ node, program.graph.contains node = true → (ops node).IsPortable)
    (fits : (program.docWith (program.nodeDoc ops)).Fits) :
    ofJson registry (Storage.withoutNulls ((program.docWith (program.nodeDoc ops)).toJson .compact)) =
      (program.docWith (program.writtenDoc ops)).withoutNulls.decode registry := by
  have portable : ∀ part ∈ (program.docWith (program.nodeDoc ops)).nodes, part.op.IsPortable :=
    agrees.forall_docWith kept
  have same : (program.docWith (program.nodeDoc ops)).written = program.docWith (program.writtenDoc ops) :=
    written_eq program ops
  have strippedFits := fits.withoutNulls portable
  rw [ProgramDoc.withoutNulls_toJson portable]
  rw [same] at strippedFits ⊢
  have parts : ∀ part ∈ (program.docWith (program.writtenDoc ops)).withoutNulls.nodes,
      part.IsFree ∧ part.op.IsPortable := by
    rw [ProgramDoc.withoutNulls, List.forall_mem_map]
    exact agrees.forall_docWith fun node live =>
      ⟨(NodeDoc.isFree_written (program.nodeDoc ops node)).withoutNulls, (kept node live).withoutNulls⟩
  rw [ofJson_toJson registry strippedFits fun part isPart => (parts part isPart).2,
    ProgramDoc.written_eq fun part isPart => (parts part isPart).1]

end AgreesOn

/-- A module with a constant whose data has null fields, of which one is in an item of an array that has a null as well,
and with metadata of which nothing is left at one node. -/
def annotated : Program :=
  (ofRoot .moduleRoot).edited [
    .addChild ⟨0, 0⟩ (.const (.extension (.tuple []) (.obj [("rate", .null),
      ("terms", .arr [.null, .obj [("low", .null), ("high", .int 1)]])])) (.tuple [])),
    .setMetadata ⟨0, 0⟩ "origin" (.obj [("line", .null), ("column", .int 1)]),
    .setMetadata ⟨1, 0⟩ "note" .null]

/-- The data of a module with further fields. -/
def moduleData (fields : List (String × Json)) : Json :=
  .obj [("version", .str "v1"), ("nodes", .arr [.obj (("op", .obj [("op", .str "Module")]) :: fields)]),
    ("edges", .arr [])]

end Program

end NestedFlow
