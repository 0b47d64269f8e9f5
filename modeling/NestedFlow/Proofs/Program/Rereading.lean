import NestedFlow.Proofs.Program.RoundTrip
import NestedFlow.Proofs.Typing

/-! What is left of a program when its operations are read from their external forms.

Validation and reading look at different parts of an operation. A well formed program may hold what cannot be read, and
what is read in another way, so that it is lost in its external form.
-/

set_option autoImplicit false

namespace NestedFlow

/-! ### Operations -/

mutual

/-- Only values have types, and all of them have external forms. -/
theorem Value.Inhabits.exists_encode : ∀ {value : Value} {ty : Ty}, value.Inhabits ty → ∃ doc, value.encode = .ok doc
  | _, _, .sum _ _ elements => by
    obtain ⟨docs, encoded⟩ := elements.exists_encodeAll
    rw [Value.encode, encoded]
    exact ⟨_, rfl⟩
  | _, _, .tuple elements => by
    obtain ⟨docs, encoded⟩ := elements.exists_encodeAll
    rw [Value.encode, encoded]
    exact ⟨_, rfl⟩
  | _, _, .extension => by
    rw [Value.encode]
    exact ⟨_, rfl⟩

theorem Value.AllInhabit.exists_encodeAll : ∀ {values : List Value} {row : Row}, Value.AllInhabit values row →
    ∃ docs, Value.encodeAll values = .ok docs
  | _, _, .nil => by
    rw [Value.encodeAll]
    exact ⟨_, rfl⟩
  | _, _, .cons first rest => by
    obtain ⟨doc, encoded⟩ := first.exists_encode
    obtain ⟨docs, all⟩ := rest.exists_encodeAll
    rw [Value.encodeAll, encoded, Outcome.ok_bind, all]
    exact ⟨_, rfl⟩

end

theorem Op.exists_encode {registry : Registry} {op : Op} (checked : Program.checkOp registry op = .ok ()) :
    ∃ doc, op.encode = .ok doc := by
  cases op with
  | const value typ =>
    obtain ⟨doc, encoded⟩ := (Value.check_eq_ok_iff.1 checked).exists_encode
    rw [Op.encode, encoded]
    exact ⟨_, rfl⟩
  | _ => exact ⟨_, rfl⟩

/-- The operation that is read from the document of an operation. -/
def Op.reread (registry : Registry) (op : Op) : Outcome Op := do
  let doc ← op.encode
  doc.decode registry

/-- A resolved operation is read as it is. -/
theorem Op.Resolved.reread_eq {registry : Registry} {op : Op} (resolved : op.Resolved registry) :
    op.reread registry = .ok op := by
  obtain ⟨doc, encoded, decoded⟩ := Op.decode_encode resolved
  rw [reread, encoded]
  exact decoded

namespace PortGraph

theorem flatten_resize {count : Nat} {ports : List (List Nat)} (unlinked : ∀ listed ∈ ports.drop count, listed = []) :
    (resize count ports).flatten = ports.flatten := by
  have dropped : (ports.drop count).flatten = [] := List.flatten_eq_nil_iff.2 unlinked
  have added : ∀ more, (List.replicate more ([] : List Nat)).flatten = [] := fun more =>
    List.flatten_eq_nil_iff.2 fun _ mem => List.eq_of_mem_replicate mem
  rw [resize, List.flatten_append, added, List.append_nil]
  conv_rhs => rw [← List.take_append_drop count ports, List.flatten_append, dropped, List.append_nil]

theorem edgesOf_resized {graph : PortGraph} {node : Node} {counts : Direction → Nat}
    (live : graph.contains node = true) (fits : graph.Fits node counts) (other : Node) (direction : Direction) :
    (graph.resized node counts).edgesOf other direction = graph.edgesOf other direction := by
  have ports : ((graph.resized node counts).portsOf other direction).flatten =
      (graph.portsOf other direction).flatten := by
    rw [portsOf_resized counts live]
    split
    · rename_i here
      rw [flatten_resize (fits direction), here]
    · rfl
  rw [edgesOf, edgesOf, ports]
  rfl

end PortGraph

namespace Program

/-- Put what is read for a node in the place of its operation. -/
def rereadAt (registry : Registry) (program : Program) (node : Node) : Outcome Program := do
  let op ← program.op node
  let again ← op.reread registry
  let change : Change Program Unit := do
    let _ ← replaceOp node again
  change.after program

/-- The program with what is read for its nodes in the place of their operations. -/
def reread (registry : Registry) (program : Program) : Outcome Program :=
  program.graph.nodes.foldlM (rereadAt registry) program

/-- Some nodes of a program have got other operations, and nothing else has changed. -/
structure Exchanged (program : Program) (kids : Node → List Node) (target : Node → Op) (done : List Node)
    (copy : Program) : Prop where
  agrees : copy.AgreesOn kids
  live_eq : ∀ node, copy.graph.contains node = program.graph.contains node
  hierarchy : copy.hierarchy = program.hierarchy
  root : copy.root = program.root
  edges : ∀ node, copy.graph.edgesOf node .outgoing = program.graph.edgesOf node .outgoing
  exchanged : ∀ node ∈ done, copy.ops.get? node = some (target node)
  others : ∀ node, node ∉ done → copy.ops.get? node = program.ops.get? node

variable {program copy : Program} {kids : Node → List Node} {target : Node → Op} {done : List Node} {registry : Registry}

namespace AgreesOn

theorem rereadAt_eq_ok_iff (agrees : program.AgreesOn kids) {node : Node} {op : Op}
    (found : program.ops.get? node = some op) :
    program.rereadAt registry node = .ok copy ↔ ∃ again, op.reread registry = .ok again ∧
      program.graph.Fits node again.portCount ∧ copy = { program with
        graph := program.graph.resized node again.portCount
        ops := program.ops.insert node again } := by
  rw [rereadAt, agrees.op_eq_ok_iff.2 found, Outcome.ok_bind, Outcome.bind_eq_ok_iff]
  apply exists_congr
  intro again
  apply and_congr_right
  intro _
  rw [Change.after_eq_ok_iff, Change.run_bind]
  by_cases fits : program.graph.Fits node again.portCount
  · rw [agrees.run_replaceOp found fits, and_iff_right fits]
    constructor
    · intro same
      cases same
      rfl
    · intro same
      rw [same]
      rfl
  · obtain ⟨error, run⟩ := agrees.run_replaceOp_of_not (agrees.contains_of_get? found) fits
    rw [run]
    exact iff_of_false (fun same => nomatch same) fun held => fits held.1

/-- A node whose edges fit an operation may have it. -/
theorem fits_of_fit (agrees : program.AgreesOn kids) (fit : Fit target program.allEdges) (node : Node) :
    program.graph.Fits node (target node).portCount := by
  intro direction listed dropped
  rw [List.eq_nil_iff_forall_not_mem]
  intro id mem
  obtain ⟨index, inside, same⟩ := List.getElem_of_mem dropped
  have get := List.getElem?_eq_getElem inside
  rw [List.getElem?_drop, same] at get
  have atPort : id ∈ program.graph.idsAt ⟨node, direction, ((target node).portCount direction + index : Nat)⟩ := by
    rw [PortGraph.idsAt_natCast, get]
    exact mem
  obtain ⟨link, recorded, isPort⟩ := (agrees.graph.listed_iff _ _).1 atPort
  have isEdge : link.edge id ∈ program.allEdges := agrees.mem_allEdges.2 ⟨link, recorded, rfl⟩
  have inRange := fit _ isEdge direction
  rw [link.port_edge, isPort] at inRange
  dsimp only at inRange
  omega

end AgreesOn

namespace Exchanged

theorem start (agrees : program.AgreesOn kids) : Exchanged program kids target [] program :=
  ⟨agrees, fun _ => rfl, rfl, rfl, fun _ => rfl, fun _ mem => absurd mem List.not_mem_nil, fun _ _ => rfl⟩

theorem nodes_eq (exchanged : Exchanged program kids target done copy) : copy.graph.nodes = program.graph.nodes := by
  apply List.Perm.eq_of_pairwise _ copy.graph.pairwise_nodes program.graph.pairwise_nodes
  · rw [List.perm_ext_iff_of_nodup copy.graph.nodup_nodes program.graph.nodup_nodes]
    intro node
    rw [PortGraph.mem_nodes, PortGraph.mem_nodes, exchanged.live_eq]
  · exact fun first second _ _ before after => absurd (Int.lt_trans before after) (Int.lt_irrefl _)

theorem order_eq (exchanged : Exchanged program kids target done copy) : copy.order = program.order := by
  rw [order, order, tops, tops, exchanged.nodes_eq, exchanged.hierarchy, exchanged.root]

theorem allEdges_eq (exchanged : Exchanged program kids target done copy) : copy.allEdges = program.allEdges := by
  rw [allEdges, allEdges, exchanged.order_eq]
  congr 1
  funext node
  exact exchanged.edges node

theorem position_eq (exchanged : Exchanged program kids target done copy) : copy.position = program.position := by
  funext node
  rw [position, position, exchanged.order_eq]

/-- The parts of a document belong to the program with other operations as well. -/
theorem docWith_eq (exchanged : Exchanged program kids target done copy) (docs : Node → NodeDoc) :
    copy.docWith docs = program.docWith docs := by
  have edges : copy.edgeDoc = program.edgeDoc := by
    funext edge
    rw [edgeDoc, edgeDoc, exchanged.position_eq]
  rw [docWith, docWith, exchanged.order_eq, exchanged.allEdges_eq, edges]

/-- The next node gets its operation. -/
theorem step (exchanged : Exchanged program kids target done copy) {node : Node}
    (live : program.graph.contains node = true) (fits : copy.graph.Fits node (target node).portCount) :
    Exchanged program kids target (done ++ [node]) { copy with
      graph := copy.graph.resized node (target node).portCount
      ops := copy.ops.insert node (target node) } := by
  have alive : copy.graph.contains node = true := (exchanged.live_eq node).trans live
  constructor
  case agrees => exact exchanged.agrees.replaced alive fits
  case live_eq => exact fun other => (PortGraph.contains_resized _ alive other).trans (exchanged.live_eq other)
  case hierarchy => exact exchanged.hierarchy
  case root => exact exchanged.root
  case edges => exact fun other => (PortGraph.edgesOf_resized alive fits other .outgoing).trans (exchanged.edges other)
  case exchanged =>
    intro other mem
    rw [Table.get?_insert_eq]
    split
    · rename_i same
      rw [same]
    · rename_i apart
      rw [List.mem_append, List.mem_singleton, or_iff_left apart] at mem
      exact exchanged.exchanged other mem
  case others =>
    intro other fresh
    rw [List.mem_append, List.mem_singleton, not_or] at fresh
    rw [Table.get?_insert_eq, if_neg fresh.2]
    exact exchanged.others other fresh.1

end Exchanged

/-- All operations are read and put in place if they have the ports that the edges need, -/
theorem AgreesOn.run_reread (agrees : program.AgreesOn kids)
    (reads : ∀ node op, program.ops.get? node = some op → op.reread registry = .ok (target node))
    (fit : Fit target program.allEdges) :
    ∃ again, program.reread registry = .ok again ∧ Exchanged program kids target program.graph.nodes again := by
  refine Outcome.foldlM_reaches (fun done copy => Exchanged program kids target done copy) ?_ (.start agrees)
  intro done node rest copy split exchanged
  have isNode : node ∈ program.graph.nodes := by simp [split]
  have live := PortGraph.mem_nodes.1 isNode
  have fresh : node ∉ done := not_mem_of_split (split ▸ program.graph.nodup_nodes)
  obtain ⟨op, found⟩ := agrees.get?_of_contains live
  -- the operation of the next node has not been exchanged yet
  have own := (exchanged.others node fresh).trans found
  have fits := exchanged.agrees.fits_of_fit (exchanged.allEdges_eq ▸ fit) node
  exact ⟨_, (exchanged.agrees.rereadAt_eq_ok_iff own).2 ⟨_, reads node op found, fits, rfl⟩, exchanged.step live fits⟩

/-- and only then. -/
theorem AgreesOn.exchanged_of_reread (agrees : program.AgreesOn kids)
    (same : ∀ node op again, program.ops.get? node = some op → op.reread registry = .ok again → target node = again)
    {again : Program} (reread : program.reread registry = .ok again) :
    Exchanged program kids target program.graph.nodes again ∧
      ∀ node ∈ program.graph.nodes, ∀ op, program.ops.get? node = some op → op.reread registry = .ok (target node) := by
  refine Outcome.foldlM_traces (fun done copy => Exchanged program kids target done copy ∧
    ∀ node ∈ done, ∀ op, program.ops.get? node = some op → op.reread registry = .ok (target node)) ?_
    ⟨.start agrees, fun _ mem => absurd mem List.not_mem_nil⟩ reread
  rintro done node rest copy after split ⟨exchanged, earlier⟩ made
  have live : program.graph.contains node = true := PortGraph.mem_nodes.1 (by simp [split])
  have fresh : node ∉ done := not_mem_of_split (split ▸ program.graph.nodup_nodes)
  obtain ⟨op, found⟩ := agrees.get?_of_contains live
  have own := (exchanged.others node fresh).trans found
  obtain ⟨read, isRead, fits, rfl⟩ := (exchanged.agrees.rereadAt_eq_ok_iff own).1 made
  obtain rfl := same node op read found isRead
  refine ⟨exchanged.step live fits, fun other mem op' found' => ?_⟩
  rcases List.mem_append.1 mem with before | last
  · exact earlier other before op' found'
  · rw [List.mem_singleton.1 last] at found' ⊢
    rwa [Option.some.inj (found'.symm.trans found)]

/-- Nothing changes if all operations are resolved. -/
theorem AgreesOn.reread_eq (agrees : program.AgreesOn kids)
    (resolved : ∀ node op, program.ops.get? node = some op → op.Resolved registry) :
    program.reread registry = .ok program := by
  have step : ∀ node ∈ program.graph.nodes, program.rereadAt registry node = .ok program := by
    intro node isNode
    have live := PortGraph.mem_nodes.1 isNode
    obtain ⟨op, found⟩ := agrees.get?_of_contains live
    have fits : program.graph.Fits node op.portCount := by
      intro direction listed dropped
      rw [List.drop_eq_nil_of_le (Nat.le_of_eq (agrees.portTotals node op found direction))] at dropped
      cases dropped
    refine (agrees.rereadAt_eq_ok_iff found).2 ⟨op, (resolved node op found).reread_eq, fits, ?_⟩
    rw [PortGraph.resized_eq_self _ (agrees.portTotals node op found) live, Table.insert_of_get? found]
  obtain ⟨again, folded, rfl⟩ : ∃ again, program.reread registry = .ok again ∧ again = program := by
    refine Outcome.foldlM_reaches (fun _ copy => copy = program) (fun done node rest before split same => ?_) rfl
    exact ⟨program, same ▸ step node (by simp [split]), rfl⟩
  exact folded

/-! ### Well formed programs -/

/-- The operations of a well formed program have external forms. -/
theorem AgreesOn.exists_docs_of_valid (agrees : program.AgreesOn kids) {requirements : Bool}
    (valid : (program.validate registry requirements).Empty) :
    ∃ ops : Node → OpDoc, ∀ node op, program.ops.get? node = some op → op.encode = .ok (ops node) := by
  apply exists_docs
  intro node op found
  obtain ⟨-, -, checked, -⟩ := agrees.nodeReport_of_accepted valid found
  exact Op.exists_encode checked

/-- What is read of the document is as well formed as the program with the operations that are read. -/
theorem Exchanged.exists_decoded {docs : Node → NodeDoc} {again : Program} (parents : program.Parented docs)
    (reads : program.Reads registry docs)
    (exchanged : Exchanged program kids (readOp registry docs) program.graph.nodes again) (requirements : Bool) :
    ∃ copy, (program.docWith docs).decode registry = .ok copy ∧
      ((copy.validate registry requirements).Empty ↔ (again.validate registry requirements).Empty) := by
  have agrees := exchanged.agrees
  have same : ∀ node op, again.ops.get? node = some op → readOp registry docs node = op := by
    intro node op found
    have live := (exchanged.live_eq node).symm.trans (agrees.contains_of_get? found)
    rw [exchanged.exchanged node (PortGraph.mem_nodes.2 live)] at found
    exact Option.some.inj found
  have parents' : again.Parented docs := by
    rwa [Parented, exchanged.hierarchy, exchanged.position_eq]
  have reads' : again.Reads registry docs := fun node live => reads node ((exchanged.live_eq node).symm.trans live)
  obtain ⟨copy, decoded, built⟩ := agrees.decode_docWith registry parents' reads' (agrees.fit same)
  rw [exchanged.docWith_eq] at decoded
  exact ⟨copy, decoded, (built.mirrors agrees same).empty_validate_iff agrees built.agrees registry requirements⟩

/-- What is reported about a program once it is read from its external form. -/
def revalidate (registry : Registry) (requirements : Bool) (program : Program) : Report := do
  let data ← program.toJson
  let copy ← ofJson registry data
  copy.validate registry requirements

/-- Nothing is reported exactly if the external form can hold the program, all its operations are read from theirs, and
it is well formed with what is read. -/
theorem AgreesOn.revalidate_iff (agrees : program.AgreesOn kids) {ops : Node → OpDoc}
    (portable : ∀ node op, program.ops.get? node = some op → op.IsPortable)
    (encoded : ∀ node op, program.ops.get? node = some op → op.encode = .ok (ops node)) (requirements : Bool) :
    program.revalidate registry requirements = .ok [] ↔
      ProgramDoc.Fits ⟨program.order.map (program.nodeDoc ops), program.allEdges.map program.edgeDoc⟩ ∧
      ∃ again, program.reread registry = .ok again ∧ again.validate registry requirements = .ok [] := by
  have external := agrees.encode_eq encoded
  have parents := parented_writtenDoc program ops
  have decodes : ∀ node op, program.ops.get? node = some op →
      op.reread registry = (program.writtenDoc ops node).op.decode registry := by
    intro node op found
    rw [Op.reread, encoded node op found]
    rfl
  constructor
  · intro revalid
    obtain ⟨data, written, further⟩ := Outcome.bind_eq_ok_iff.1 revalid
    obtain ⟨copy, read, copyValid⟩ := Outcome.bind_eq_ok_iff.1 further
    obtain ⟨fits, rfl⟩ := (toJson_eq_ok_iff external).1 written
    -- the document was decoded, so all operations were read, and have the ports for all edges
    rw [agrees.ofJson_eq portable encoded fits] at read
    obtain ⟨reads, fit⟩ := agrees.reads_and_fit registry parents read
    have rereads : ∀ node op, program.ops.get? node = some op →
        op.reread registry = .ok (readOp registry (program.writtenDoc ops) node) := by
      intro node op found
      obtain ⟨again, decoded⟩ := reads node (agrees.contains_of_get? found)
      rw [decodes node op found, readOp, decoded]
    obtain ⟨again, reread, exchanged⟩ := agrees.run_reread rereads fit
    obtain ⟨other, decoded, valid_iff⟩ := exchanged.exists_decoded parents reads requirements
    obtain rfl : copy = other := Except.ok.inj (read.symm.trans decoded)
    exact ⟨fits, again, reread, valid_iff.1 copyValid⟩
  · rintro ⟨fits, again, reread, againValid⟩
    have same : ∀ node op read, program.ops.get? node = some op → op.reread registry = .ok read →
        readOp registry (program.writtenDoc ops) node = read := by
      intro node op read found isRead
      rw [decodes node op found] at isRead
      rw [readOp, isRead]
    obtain ⟨exchanged, rereads⟩ := agrees.exchanged_of_reread same reread
    have reads : program.Reads registry (program.writtenDoc ops) := by
      intro node live
      obtain ⟨op, found⟩ := agrees.get?_of_contains live
      exact ⟨_, (decodes node op found).symm.trans (rereads node (PortGraph.mem_nodes.2 live) op found)⟩
    obtain ⟨copy, decoded, valid_iff⟩ := exchanged.exists_decoded parents reads requirements
    have written := (toJson_eq_ok_iff external).2 ⟨fits, rfl⟩
    rw [revalidate, written, Outcome.ok_bind, agrees.ofJson_eq portable encoded fits, decoded]
    exact valid_iff.2 againValid

/-- A module with a function of one type that it does not use, which is called at a given type. -/
def calling (ty : Ty) : Program :=
  let signature : Signature := ⟨[], [], ∅⟩
  let scheme : Scheme := ⟨[.type .linear], signature⟩
  (Edit.connect ⟨1, 0⟩ 0 ⟨5, 0⟩ 0).apply
    ((Edit.addChild ⟨2, 0⟩ (.call scheme [.type ty] signature)).apply
      ((Edit.addChild ⟨2, 0⟩ (.output [])).apply
        ((Edit.addChild ⟨2, 0⟩ (.input [])).apply
          ((Edit.addChild ⟨0, 0⟩ (.funcDefn "main" ⟨[], signature⟩)).apply
            ((Edit.addChild ⟨0, 0⟩ (.funcDecl "forget" scheme)).apply (ofRoot .moduleRoot))))))

/-- A type of an extension that is not registered. -/
def ghost : Ty := .custom "ghost" "T" [] .copyable none

/-- A type that requires an extension with the name of a variable. -/
def disguised : Ty := .function [] [] (.ofName "1")

/-- Without constants there is no data to be written. -/
theorem isPortable_of_tags (program : Program) (tags : ∀ op ∈ program.ops.values, op.opTag ≠ .const) :
    ∀ node op, program.ops.get? node = some op → op.IsPortable := by
  intro node op found
  have other := tags op (List.mem_map_of_mem ((Table.get?_eq_some_iff _ node op).1 found))
  cases op with
  | const value typ => exact absurd rfl other
  | _ => exact trivial

theorem reachable_calling (ty : Ty) : Reachable (calling ty) := by
  rw [calling]
  exact .edited (.edited (.edited (.edited (.edited (.edited (.ofRoot _) _) _) _) _) _) _

/-- A program that is well formed, and not once it is read from its external form. -/
def IsSpoiled (registry : Registry) (program : Program) : Prop :=
  Reachable program ∧ (∀ node op, program.ops.get? node = some op → op.IsPortable) ∧
    program.validate registry true = .ok [] ∧ program.revalidate registry true ≠ .ok []

end Program

end NestedFlow
