import NestedFlow.Proofs.Document.Decoded
import NestedFlow.Proofs.Program.RoundTrip

/-! Canonical documents.

A program that was decoded has operations that are decoded from their own documents. Encoding it therefore gives a
document that is read as a copy with the nodes in their order, and the copy is encoded as the same document again.
-/

set_option autoImplicit false

namespace NestedFlow.Program

open Hierarchy

/-! ### Operations of decoded programs -/

/-- All operations have a property. -/
def EveryOp (good : Op → Prop) (program : Program) : Prop :=
  ∀ node op, program.ops.get? node = some op → good op

section

variable {good : Op → Prop} {program new : Program} {α : Type}

theorem everyOp_ofRoot {op : Op} (isGood : good op) : EveryOp good (ofRoot op) := by
  intro node other found
  rw [ofRoot, Table.get?_insert_eq] at found
  split at found
  · cases found
    exact isGood
  · cases found

theorem EveryOp.grown (every : EveryOp good program) {op : Op} (isGood : good op) :
    EveryOp good (program.grown op) := by
  intro node other found
  rw [Program.grown, Table.get?_insert_eq] at found
  split at found
  · cases found
    exact isGood
  · exact every node other found

theorem EveryOp.addNodes {ops : List Op} {nodes : List Node} (every : EveryOp good program)
    (areGood : ∀ op ∈ ops, good op) (added : (ProgramDoc.addNodes ops).run program = .ok nodes new) :
    EveryOp good new := by
  refine addNodes_preserves (EveryOp good) (fun before op mem held => ?_) every added
  exact held.grown (areGood op mem)

theorem ops_onGraph {change : Change PortGraph α} {answer : α}
    (run : (onGraph change).run program = .ok answer new) : new.ops = program.ops := by
  obtain ⟨_, -, rfl⟩ := Change.run_within_eq_ok_iff.1 run
  rfl

theorem ops_decodeEdge {nodes : List Node} {edge : EdgeDoc}
    (decoded : ProgramDoc.decodeEdge nodes program edge = .ok new) : new.ops = program.ops := by
  obtain ⟨source, -, decoded⟩ := Outcome.bind_eq_ok_iff.1 decoded
  obtain ⟨target, -, decoded⟩ := Outcome.bind_eq_ok_iff.1 decoded
  obtain ⟨_, _, connected, made⟩ :=
    Change.run_bind_eq_ok_iff.1 (Change.after_eq_ok_iff.1 (relay_eq_ok_iff.1 decoded))
  cases made
  exact ops_onGraph connected

/-- The operations of a decoded program are those that were read for its nodes. -/
theorem everyOp_of_decode {registry : Registry} {doc : ProgramDoc} (decoded : doc.decode registry = .ok program)
    (read : ∀ part ∈ doc.nodes, ∀ op, part.op.decode registry = .ok op → good op) : EveryOp good program := by
  obtain ⟨rootOp, rest, added, start, described, asked, run, nodes, edges⟩ := exists_of_decode decoded
  have areGood : ∀ op ∈ rootOp :: rest, good op := by
    intro op mem
    have answered := List.mem_map_of_mem (f := (Except.ok : Op → Outcome Op)) mem
    rw [← Outcome.mapM_eq_ok_iff.1 asked, List.mem_map] at answered
    obtain ⟨⟨part, position⟩, isPart, same⟩ := answered
    exact read part (List.fst_mem_of_mem_zipIdx isPart) op (decodeOp_eq_ok_iff.1 same)
  have begins : EveryOp good start := (everyOp_ofRoot (areGood rootOp List.mem_cons_self)).addNodes
    (fun op mem => areGood op (List.mem_cons_of_mem rootOp mem)) run
  have middle : EveryOp good described := by
    refine Outcome.foldlM_preserves (EveryOp good) (fun before item after _ held step => ?_) begins nodes
    exact fun node op found => held node op ((decodeNode_keeps step).2 ▸ found)
  refine Outcome.foldlM_preserves (EveryOp good) (fun before item after _ held step => ?_) middle edges
  exact fun node op found => held node op (ops_decodeEdge step ▸ found)

end

/-! ### The document of a copy -/

namespace AgreesOn

variable {program : Program} {kids : Node → List Node}

/-- The tops among all nodes, in the order of the document, are those that begin its trees. -/
theorem filter_order (agrees : program.AgreesOn kids) :
    (program.order.filter fun node => node ≠ program.root ∧ program.hierarchy.parent? node = none) =
      program.graph.nodes.filter fun node => node ≠ program.root ∧ program.hierarchy.parent? node = none := by
  have part : (program.graph.nodes.filter fun node =>
      node ≠ program.root ∧ program.hierarchy.parent? node = none).Sublist program.order :=
    (List.sublist_cons_self _ _).trans (agrees.stores.head_sublist_descendants program.tops)
  rw [← filter_mem_eq part agrees.nodup_order]
  apply List.filter_congr
  intro node isNode
  rw [decide_eq_decide, List.mem_filter, PortGraph.mem_nodes, decide_eq_true_iff]
  exact (and_iff_right (agrees.mem_order.1 isNode)).symm

end AgreesOn

namespace Mirrors

variable {rename : Node → Node} {program copy : Program} {kids others : Node → List Node}
  (mirrors : Mirrors rename program copy) (agrees : program.AgreesOn kids) (same : copy.AgreesOn others)
  (nodes : copy.graph.nodes = program.order.map rename)

include mirrors agrees same nodes

theorem tops_eq : copy.tops = program.tops.map rename := by
  rw [tops, nodes, mirrors.root, List.filter_map, tops, List.map_cons, ← agrees.filter_order]
  congr 2
  apply List.filter_congr
  intro node isNode
  have live := agrees.mem_order.1 isNode
  rw [Function.comp_apply, decide_eq_decide, mirrors.parent?_rename agrees same live, Option.map_eq_none_iff, ne_eq,
    mirrors.rename_inj live agrees.root_live]

/-- If the copy has its nodes in the order of the document, then its document has the same order. -/
theorem order_eq : copy.order = program.order.map rename := by
  rw [order, mirrors.tops_eq agrees same nodes, List.flatMap_map, order, List.map_flatMap]
  exact List.flatMap_congr fun top isTop => mirrors.descendants_rename agrees same (agrees.mem_tops.1 isTop).1

theorem position_rename {node : Node} (live : program.graph.contains node = true) :
    copy.position (rename node) = program.position node := by
  rw [same.position_eq_iff (mirrors.live_rename live), mirrors.order_eq agrees same nodes, List.getElem?_map,
    agrees.getElem?_position live]
  rfl

theorem parent_rename {node : Node} (live : program.graph.contains node = true) :
    ((copy.hierarchy.parent? (rename node)).map fun parent => (copy.position parent : Int)) =
      (program.hierarchy.parent? node).map fun parent => (program.position parent : Int) := by
  rw [mirrors.parent?_rename agrees same live, Option.map_map]
  apply Option.map_congr
  intro parent above
  rw [Function.comp_apply, mirrors.position_rename agrees same nodes (agrees.live_of_parent? above).2]

theorem nodeDoc_rename {ops copyOps : Node → OpDoc} {node : Node} (live : program.graph.contains node = true)
    (sameOp : copyOps (rename node) = ops node)
    (metadata : copy.metadata.getD (rename node) ∅ = program.metadata.getD node ∅) :
    copy.nodeDoc copyOps (rename node) = program.nodeDoc ops node := by
  rw [nodeDoc, nodeDoc, mirrors.parent_rename agrees same nodes live, sameOp, metadata]

theorem edgeDoc_rename {edge image : Edge} (mem : edge ∈ program.allEdges) (shape : image.shape id = edge.shape rename) :
    copy.edgeDoc image = program.edgeDoc edge := by
  obtain ⟨kind, source, target⟩ := shape_eq_iff.1 shape
  obtain ⟨liveSource, liveTarget⟩ := agrees.live_of_mem_allEdges mem
  rw [edgeDoc, edgeDoc, kind, source, target, Port.rename, Port.rename]
  dsimp only
  rw [mirrors.position_rename agrees same nodes liveSource, mirrors.position_rename agrees same nodes liveTarget]

theorem edgeDocs_eq : copy.allEdges.map copy.edgeDoc = program.allEdges.map program.edgeDoc := by
  rw [allEdges, mirrors.order_eq agrees same nodes, List.flatMap_map, List.map_flatMap, allEdges, List.map_flatMap]
  apply List.flatMap_congr
  intro node isNode
  apply map_images_eq (mirrors.shapes_edgesOf agrees same (agrees.mem_order.1 isNode))
  intro edge mem image shape
  exact mirrors.edgeDoc_rename agrees same nodes (List.mem_flatMap_of_mem isNode mem) shape

end Mirrors

/-- The metadata of a part of the document is that of the node. -/
theorem metadata_nodeDoc (program : Program) (ops : Node → OpDoc) (node : Node) :
    Table.ofList ((program.nodeDoc ops node).metadata.getD []) = program.metadata.getD node ∅ := by
  rw [nodeDoc]
  generalize program.metadata.getD node ∅ = table
  apply Table.ext
  cases empty : table.isEmpty with
  | true => exact (List.isEmpty_iff.1 empty).symm
  | false => exact Table.entries_ofList table.nodup

/-- A program with resolved operations has a document, and so has what is read of it: the same. -/
theorem AgreesOn.exists_canonical {registry : Registry} {program : Program} {kids : Node → List Node}
    (agrees : program.AgreesOn kids) (resolved : EveryOp (Op.Resolved registry) program) :
    ∃ canonical copy, program.encode = .ok canonical ∧ canonical.decode registry = .ok copy ∧
      copy.encode = .ok canonical := by
  obtain ⟨ops, holds⟩ := exists_docs_of_resolved resolved
  have reads : program.Reads registry (program.nodeDoc ops) := by
    intro node live
    obtain ⟨op, found⟩ := agrees.get?_of_contains live
    exact ⟨op, (holds node op found).2⟩
  have same : ∀ node op, program.ops.get? node = some op → readOp registry (program.nodeDoc ops) node = op := by
    intro node op found
    have read : (program.nodeDoc ops node).op.decode registry = .ok op := (holds node op found).2
    rw [readOp, read]
  obtain ⟨copy, decoded, built⟩ := agrees.decode_docWith registry (fun _ => rfl) reads (agrees.fit same)
  have mirrors := built.mirrors agrees same
  have nodes := built.nodes_eq agrees
  have resolvedCopy : EveryOp (Op.Resolved registry) copy := by
    intro node op found
    obtain ⟨original, live, rfl⟩ := (mirrors.live_iff node).1 (built.agrees.contains_of_get? found)
    rw [mirrors.get?_rename agrees live] at found
    exact resolved original op found
  obtain ⟨copyOps, copyHolds⟩ := exists_docs_of_resolved resolvedCopy
  have parts : copy.order.map (copy.nodeDoc copyOps) = program.order.map (program.nodeDoc ops) := by
    rw [mirrors.order_eq agrees built.agrees nodes, List.map_map]
    apply List.map_congr_left
    intro node isNode
    have live := agrees.mem_order.1 isNode
    obtain ⟨op, found⟩ := agrees.get?_of_contains live
    -- an operation has one document, whichever node it is at
    have sameDoc : copyOps (program.place node) = ops node := by
      have first := (copyHolds _ op (mirrors.ops node op found)).1
      rw [(holds node op found).1, Except.ok.injEq] at first
      exact first.symm
    apply mirrors.nodeDoc_rename agrees built.agrees nodes live sameDoc
    rw [built.metadata node live, if_pos isNode, metadata_nodeDoc]
  refine ⟨_, copy, agrees.encode_eq fun node op found => (holds node op found).1, decoded, ?_⟩
  rw [built.agrees.encode_eq fun node op found => (copyHolds node op found).1, parts,
    mirrors.edgeDocs_eq agrees built.agrees nodes]

/-- Whatever document is accepted, the program has a document of its own, which is accepted and stays the same from
then on. -/
theorem canonical_of_decode {registry : Registry} {doc : ProgramDoc} {program : Program}
    (constructed : registry.Constructed) (decoded : doc.decode registry = .ok program) :
    ∃ canonical copy, program.encode = .ok canonical ∧ canonical.decode registry = .ok copy ∧
      copy.encode = .ok canonical := by
  have agrees : program.AgreesOn program.hierarchy.children := consistent_of_decode decoded
  have resolved : EveryOp (Op.Resolved registry) program :=
    everyOp_of_decode decoded fun _ _ _ read => OpDoc.resolved_of_decode constructed.wellNamed read
  exact agrees.exists_canonical resolved

/-- A region whose second node lies in the third one, and a detached node, with names and variables of extensions out
of order, repeated and with leading zeros, and with a linear type that is said to be copyable. -/
def scrambled : ProgramDoc where
  nodes := [
    ⟨none, .dfg [] [] (some ["logic", "prelude", "logic"]), some [("name", .str "scrambled")]⟩,
    ⟨some 2, .extension "logic" "And" [.nat 2], none⟩,
    ⟨some 0, .dfg [] [] (some ["7", "007"]), none⟩,
    ⟨none, .noop (.custom "prelude" "qubit" [] .copyable), none⟩]
  edges := [⟨(1, 1), (3, 1), .order⟩]

theorem canonical_of_decode_scrambled :
    ∃ program canonical copy, scrambled.decode .logic = .ok program ∧ program.encode = .ok canonical ∧
      canonical.decode .logic = .ok copy ∧ copy.encode = .ok canonical := by
  obtain ⟨program, decoded⟩ : ∃ program, scrambled.decode .logic = .ok program := ⟨_, rfl⟩
  exact ⟨program, (canonical_of_decode Registry.constructed_logic decoded).imp fun _ => .imp fun _ same =>
    ⟨decoded, same⟩⟩

end NestedFlow.Program
