import NestedFlow.Program.Codec
import NestedFlow.Proofs.Program.Removal
import NestedFlow.Proofs.Program.Wiring

/-! Programs that can be built, and the agreement of their structures.

A program begins with a single node or is decoded, and is changed by edits from then on. An edit that fails leaves
what it left, so failing edits are steps like any other.
-/

set_option autoImplicit false

namespace NestedFlow

/-- A change of a program from outside. -/
inductive Edit where
  | addNode (op : Op)
  | addChild (parent : Node) (op : Op)
  | addBefore (sibling : Node) (op : Op)
  | setParent (node parent : Node)
  | moveBefore (node sibling : Node)
  | detach (node : Node)
  | replaceOp (node : Node) (op : Op)
  | removeNode (node : Node)
  | removeSubtree (node : Node)
  | connect (source : Node) (sourceOffset : Int) (target : Node) (targetOffset : Int)
  | addOrder (source target : Node)
  | disconnect (edge : Int)
  | setMetadata (node : Node) (key : String) (value : Json)
  | inferExtensions

namespace Edit

/-- The program after an edit, whether it succeeds or fails. -/
def apply (edit : Edit) (program : Program) : Program :=
  match edit with
  | .addNode op => ((Program.addNode op).perform program).2
  | .addChild parent op => ((Program.addChild parent op).perform program).2
  | .addBefore sibling op => ((Program.addBefore sibling op).perform program).2
  | .setParent node parent => ((Program.setParent node parent).perform program).2
  | .moveBefore node sibling => ((Program.moveBefore node sibling).perform program).2
  | .detach node => ((Program.detach node).perform program).2
  | .replaceOp node op => ((Program.replaceOp node op).perform program).2
  | .removeNode node => ((Program.removeNode node).perform program).2
  | .removeSubtree node => ((Program.removeSubtree node).perform program).2
  | .connect source sourceOffset target targetOffset =>
    ((Program.connect source sourceOffset target targetOffset).perform program).2
  | .addOrder source target => ((Program.addOrder source target).perform program).2
  | .disconnect edge => ((Program.disconnect edge).perform program).2
  | .setMetadata node key value => ((Program.setMetadata node key value).perform program).2
  | .inferExtensions => (Program.inferExtensions.perform program).2

/-- Whether the edit gives a node another operation from outside. -/
def replaces : Edit → Bool
  | .replaceOp _ _ => true
  | _ => false

end Edit

namespace Program

/-- The programs that come about from a single node or a document by edits. -/
inductive Reachable : Program → Prop where
  | ofRoot (op : Op) : Reachable (ofRoot op)
  | decoded {registry : Registry} {doc : ProgramDoc} {program : Program}
      (decoded : doc.decode registry = .ok program) : Reachable program
  | edited {program : Program} (reachable : Reachable program) (edit : Edit) : Reachable (edit.apply program)

/-! ### Edits -/

/-- An edit that replaces no operation, successful or not, leaves a program that follows from the one before. -/
theorem Consistent.follows {program : Program} (consistent : program.Consistent) {edit : Edit}
    (keeps : edit.replaces = false) : program.Follows (edit.apply program) := by
  have agrees : program.AgreesOn program.hierarchy.children := consistent
  cases edit with
  | addNode op => exact (agrees.settles_addNode op).perform .refl
  | addChild parent op => exact (agrees.settles_addChild parent op).perform .refl
  | addBefore sibling op => exact (agrees.settles_addBefore sibling op).perform .refl
  | setParent node parent => exact (agrees.settles_setParent node parent).perform .refl
  | moveBefore node sibling => exact (agrees.settles_moveBefore node sibling).perform .refl
  | detach node => exact (agrees.settles_detach node).perform .refl
  | replaceOp node op => cases keeps
  | removeNode node => exact (agrees.settles_removeNode node).perform .refl
  | removeSubtree node => exact (agrees.settles_removeSubtree node).perform .refl
  | connect source sourceOffset target targetOffset =>
    exact (agrees.settles_connect source sourceOffset target targetOffset).perform .refl
  | addOrder source target => exact (agrees.settles_addOrder source target).perform .refl
  | disconnect edge => exact (agrees.settles_disconnect edge).perform .refl
  | setMetadata node key value => exact (agrees.settles_setMetadata node key value).perform .refl
  | inferExtensions => exact agrees.settles_inferExtensions.perform .refl

theorem Consistent.edited {program : Program} (consistent : program.Consistent) (edit : Edit) :
    (edit.apply program).Consistent := by
  cases kept : edit.replaces with
  | false => exact (consistent.follows kept).consistent consistent
  | true =>
    cases edit with
    | replaceOp node op =>
      have agrees : program.AgreesOn program.hierarchy.children := consistent
      exact (agrees.settles_replaceOp node op).perform consistent
    | _ => cases kept

/-! ### Decoding -/

theorem Consistent.after {program new : Program} (consistent : program.Consistent) {change : Change Program Unit}
    (settles : change.Settles program.Follows program) (after : change.after program = .ok new) : new.Consistent := by
  rw [Change.after_eq_ok_iff] at after
  rcases settles with ⟨answer, found, run, kept⟩ | ⟨error, run⟩
  · rw [run] at after
    cases after
    exact kept.consistent consistent
  · rw [run] at after
    cases after

theorem relay_eq_ok_iff {α : Type} {position : Int} {word : String → DocumentFault} {outcome : Outcome α} {value : α} :
    relay position word outcome = .ok value ↔ outcome = .ok value := by
  cases outcome with
  | ok found => rfl
  | error error =>
    rw [relay]
    split <;> simp [failAtPosition]

/-- What adding any of the nodes preserves is preserved by adding all of them. -/
theorem addNodes_preserves (invariant : Program → Prop) {ops : List Op} {program new : Program} {nodes : List Node}
    (step : ∀ before : Program, ∀ op ∈ ops, invariant before → invariant (before.grown op)) (start : invariant program)
    (added : (ProgramDoc.addNodes ops).run program = .ok nodes new) : invariant new := by
  induction ops generalizing program nodes with
  | nil =>
    cases added
    exact start
  | cons op rest ih =>
    rw [ProgramDoc.addNodes, Change.run_bind_of_ok (run_addNode program op)] at added
    obtain ⟨others, last, further, made⟩ := Change.run_bind_eq_ok_iff.1 added
    cases made
    exact ih (fun before other mem => step before other (List.mem_cons_of_mem op mem))
      (step program op List.mem_cons_self start) further

theorem Consistent.addNodes {program new : Program} {ops : List Op} {nodes : List Node}
    (consistent : program.Consistent) (added : (ProgramDoc.addNodes ops).run program = .ok nodes new) :
    new.Consistent := by
  refine addNodes_preserves Consistent (fun before op _ held => ?_) consistent added
  have agrees : before.AgreesOn before.hierarchy.children := held
  exact (agrees.grown op).consistent

/-- Metadata and the containment tree change, ports, edges and operations do not. -/
theorem decodeNode_keeps {nodes : List Node} {program new : Program} {node : NodeDoc × Nat}
    (decoded : ProgramDoc.decodeNode nodes program node = .ok new) :
    new.graph = program.graph ∧ new.ops = program.ops := by
  obtain ⟨doc, position⟩ := node
  obtain ⟨live, -, decoded⟩ := Outcome.bind_eq_ok_iff.1 decoded
  obtain ⟨described, metadata, decoded⟩ := Outcome.bind_eq_ok_iff.1 decoded
  have kept : described.graph = program.graph ∧ described.ops = program.ops := by
    refine Outcome.foldlM_preserves
      (fun after : Program => after.graph = program.graph ∧ after.ops = program.ops) ?_ ⟨rfl, rfl⟩ metadata
    intro before item after _ held step
    obtain ⟨_, -, made⟩ := Change.run_ask_bind_eq_ok_iff.1 (Change.after_eq_ok_iff.1 step)
    cases made
    exact held
  split at decoded
  · cases decoded
    exact kept
  · split at decoded
    · cases decoded
    · split at decoded
      · cases decoded
      · obtain ⟨_, -, run⟩ :=
          Change.run_ask_bind_eq_ok_iff.1 (Change.after_eq_ok_iff.1 (relay_eq_ok_iff.1 decoded))
        obtain ⟨_, -, run⟩ := Change.run_ask_bind_eq_ok_iff.1 run
        obtain ⟨_, -, run⟩ := Change.run_ask_bind_eq_ok_iff.1 run
        obtain ⟨_, -, rfl⟩ := Change.run_within_eq_ok_iff.1 run
        exact kept

theorem Consistent.decodeNode {nodes : List Node} {program new : Program} {node : NodeDoc × Nat}
    (consistent : program.Consistent) (decoded : ProgramDoc.decodeNode nodes program node = .ok new) :
    new.Consistent := by
  obtain ⟨doc, position⟩ := node
  obtain ⟨live, -, decoded⟩ := Outcome.bind_eq_ok_iff.1 decoded
  obtain ⟨described, metadata, decoded⟩ := Outcome.bind_eq_ok_iff.1 decoded
  have middle : described.Consistent := by
    refine Outcome.foldlM_preserves Consistent ?_ consistent metadata
    intro before item after _ held step
    have agrees : before.AgreesOn before.hierarchy.children := held
    exact held.after (agrees.settles_setMetadata live item.1 item.2) step
  have agrees : described.AgreesOn described.hierarchy.children := middle
  split at decoded
  · cases decoded
    exact middle
  · split at decoded
    · cases decoded
    · split at decoded
      · cases decoded
      · exact middle.after (agrees.settles_setParent live _) (relay_eq_ok_iff.1 decoded)

theorem Consistent.decodeEdge {nodes : List Node} {program new : Program} {edge : EdgeDoc}
    (consistent : program.Consistent) (decoded : ProgramDoc.decodeEdge nodes program edge = .ok new) :
    new.Consistent := by
  obtain ⟨source, -, decoded⟩ := Outcome.bind_eq_ok_iff.1 decoded
  obtain ⟨target, -, decoded⟩ := Outcome.bind_eq_ok_iff.1 decoded
  have agrees : program.AgreesOn program.hierarchy.children := consistent
  obtain ⟨_, _, after, made⟩ := Change.run_bind_eq_ok_iff.1 (Change.after_eq_ok_iff.1 (relay_eq_ok_iff.1 decoded))
  cases made
  by_cases fits : program.graph.HasPort (source.outputPort edge.source.2) ∧
      program.graph.HasPort (target.inputPort edge.target.2)
  · rw [run_onGraph_of_ok (PortGraph.run_connect edge.kind rfl rfl fits.1 fits.2)] at after
    cases after
    exact (agrees.linked edge.kind rfl rfl fits.1 fits.2).consistent
  · obtain ⟨error, run⟩ := @PortGraph.run_connect_of_not program.graph (source.outputPort edge.source.2)
      (target.inputPort edge.target.2) edge.kind fun held => fits held.2.2
    rw [run_onGraph_of_error run] at after
    cases after

/-- Decoding reads all operations, adds a node for each of them, and then goes through the nodes and the edges. -/
theorem exists_of_decode {registry : Registry} {doc : ProgramDoc} {program : Program}
    (decoded : doc.decode registry = .ok program) :
    ∃ rootOp rest added start described,
      doc.nodes.zipIdx.mapM (ProgramDoc.decodeOp registry) = .ok (rootOp :: rest) ∧
      (ProgramDoc.addNodes rest).run (ofRoot rootOp) = .ok added start ∧
      doc.nodes.zipIdx.foldlM (ProgramDoc.decodeNode ((ofRoot rootOp).root :: added)) start = .ok described ∧
      doc.edges.foldlM (ProgramDoc.decodeEdge ((ofRoot rootOp).root :: added)) described = .ok program := by
  rw [ProgramDoc.decode] at decoded
  split at decoded
  · cases decoded
  · obtain ⟨ops, read, decoded⟩ := Outcome.bind_eq_ok_iff.1 decoded
    split at decoded
    · rename_i first others rootOp rest _
      split at decoded
      · cases decoded
      · simp only at decoded
        split at decoded
        · cases decoded
        · rename_i added start run
          obtain ⟨described, nodes, edges⟩ := Outcome.bind_eq_ok_iff.1 decoded
          exact ⟨rootOp, rest, added, start, described, read, run, nodes, edges⟩
    · cases decoded

theorem consistent_of_decode {registry : Registry} {doc : ProgramDoc} {program : Program}
    (decoded : doc.decode registry = .ok program) : program.Consistent := by
  obtain ⟨rootOp, rest, added, start, described, -, run, nodes, edges⟩ := exists_of_decode decoded
  have begins : start.Consistent := (ofRoot_agrees rootOp).consistent.addNodes run
  have middle : described.Consistent :=
    Outcome.foldlM_preserves Consistent (fun _ _ _ _ held step => held.decodeNode step) begins nodes
  exact Outcome.foldlM_preserves Consistent (fun _ _ _ _ held step => held.decodeEdge step) middle edges

/-- The program after some edits, one after another. -/
def edited (program : Program) (edits : List Edit) : Program :=
  edits.foldl (fun program edit => edit.apply program) program

theorem Reachable.edits {program : Program} (reachable : Reachable program) (edits : List Edit) :
    Reachable (program.edited edits) := by
  induction edits generalizing program with
  | nil => exact reachable
  | cons edit rest ih => exact ih (reachable.edited edit)

theorem Reachable.consistent {program : Program} (reachable : Reachable program) : program.Consistent := by
  induction reachable with
  | ofRoot op => exact (ofRoot_agrees op).consistent
  | decoded decoded => exact consistent_of_decode decoded
  | edited _ edit ih => exact ih.edited edit

end Program

end NestedFlow
