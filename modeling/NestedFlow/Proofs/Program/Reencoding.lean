import NestedFlow.Proofs.Document.Nulls
import NestedFlow.Proofs.Program.Canonical
import NestedFlow.Proofs.Program.Rereading

/-! The document of a program that was read: the parts stand in the same order, with what is written for the operations
that were read.
-/

set_option autoImplicit false

namespace NestedFlow.Program

variable {program copy : Program} {kids : Node → List Node} {target : Node → Op} {docs : Node → NodeDoc}
  {registry : Registry}

/-- All nodes can get other operations at once, if these have the ports that the edges need. -/
theorem AgreesOn.exists_exchanged (agrees : program.AgreesOn kids) (fit : Fit target program.allEdges) :
    ∃ again, Exchanged program kids target program.graph.nodes again := by
  have further : ∀ todo done copy, done ++ todo = program.graph.nodes → Exchanged program kids target done copy →
      ∃ again, Exchanged program kids target program.graph.nodes again := by
    intro todo
    induction todo with
    | nil =>
      intro done copy all exchanged
      rw [List.append_nil] at all
      exact ⟨copy, all ▸ exchanged⟩
    | cons node rest ih =>
      intro done copy all exchanged
      have live : program.graph.contains node = true := PortGraph.mem_nodes.1 (by simp [← all])
      have fits := exchanged.agrees.fits_of_fit (exchanged.allEdges_eq ▸ fit) node
      exact ih (done ++ [node]) _ (by rw [← all, List.append_assoc, List.singleton_append]) (exchanged.step live fits)
  exact further program.graph.nodes [] program rfl (.start agrees)

/-- The part for a node with another operation, as it is written anew. -/
def rewritten (docs : Node → NodeDoc) (ops : Node → OpDoc) (node : Node) : NodeDoc :=
  { (docs node).tidied with op := ops node }

/-- Metadata with distinct keys is written as it was read, if there is any. -/
theorem tidied_metadata {metadata : Option (List (String × Json))}
    (distinct : ∀ fields, metadata = some fields → (fields.map Prod.fst).Nodup) :
    (if (Table.ofList (metadata.getD [])).isEmpty then none else some (Table.ofList (metadata.getD [])).entries) =
      metadata.filter fun fields => !fields.isEmpty := by
  cases metadata with
  | none => rfl
  | some fields =>
    have kept := Table.entries_ofList (distinct fields rfl)
    rw [Option.getD_some, Table.isEmpty, kept]
    cases fields <;> rfl

/-- What is encoded of a program that was decoded from the parts of another one. -/
theorem AgreesOn.encode_of_decode (agrees : program.AgreesOn kids) (parents : program.Parented docs)
    (distinct : ∀ node fields, (docs node).metadata = some fields → (fields.map Prod.fst).Nodup)
    (decoded : (program.docWith docs).decode registry = .ok copy) {ops : Node → OpDoc}
    (encoded : ∀ node, program.graph.contains node = true → (readOp registry docs node).encode = .ok (ops node)) :
    copy.encode = .ok (program.docWith (rewritten docs ops)) := by
  obtain ⟨reads, fit⟩ := agrees.reads_and_fit registry parents decoded
  -- the copy mirrors the program with the operations that are read
  obtain ⟨again, exchanged⟩ := agrees.exists_exchanged fit
  have same : ∀ node op, again.ops.get? node = some op → readOp registry docs node = op := by
    intro node op found
    have live := (exchanged.live_eq node).symm.trans (exchanged.agrees.contains_of_get? found)
    rw [exchanged.exchanged node (PortGraph.mem_nodes.2 live)] at found
    exact Option.some.inj found
  have parents' : again.Parented docs := by rwa [Parented, exchanged.hierarchy, exchanged.position_eq]
  have reads' : again.Reads registry docs := fun node live => reads node ((exchanged.live_eq node).symm.trans live)
  obtain ⟨other, redecoded, built⟩ :=
    exchanged.agrees.decode_docWith registry parents' reads' (exchanged.agrees.fit same)
  rw [exchanged.docWith_eq, decoded, Except.ok.injEq] at redecoded
  subst redecoded
  have mirrors := built.mirrors exchanged.agrees same
  have nodes := built.nodes_eq exchanged.agrees
  obtain ⟨copyOps, copyEncoded⟩ : ∃ copyOps : Node → OpDoc, ∀ node op, copy.ops.get? node = some op →
      op.encode = .ok (copyOps node) := by
    apply exists_docs
    intro node op found
    obtain ⟨original, live, rfl⟩ := (mirrors.live_iff node).1 (built.agrees.contains_of_get? found)
    rw [mirrors.get?_rename exchanged.agrees live] at found
    rw [← same original op found]
    exact ⟨_, encoded original ((exchanged.live_eq original).symm.trans live)⟩
  have parts : copy.order.map (copy.nodeDoc copyOps) = again.order.map (rewritten docs ops) := by
    rw [mirrors.order_eq exchanged.agrees built.agrees nodes, List.map_map]
    apply List.map_congr_left
    intro node isNode
    have live := exchanged.agrees.mem_order.1 isNode
    have written := copyEncoded (again.place node) _ (built.ops node live)
    rw [encoded node ((exchanged.live_eq node).symm.trans live), Except.ok.injEq] at written
    rw [Function.comp_apply, nodeDoc, mirrors.parent_rename exchanged.agrees built.agrees nodes live, ← parents' node,
      ← written, built.metadata node live, if_pos isNode, tidied_metadata (distinct node)]
    rfl
  rw [built.agrees.encode_eq copyEncoded, parts, mirrors.edgeDocs_eq exchanged.agrees built.agrees nodes,
    ← exchanged.docWith_eq]
  rfl

end NestedFlow.Program
