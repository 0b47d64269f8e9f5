import NestedFlow.Proofs.Document.Faults
import NestedFlow.Proofs.Program.Rebuilding

/-! How decoding a program fails.

Faults of operations and of the structure are reported as faults of the document, at the position of the node. What
breaks down is not, and only numbers and the definitions of the registry break down.
-/

set_option autoImplicit false

namespace NestedFlow

open Outcome

/-- The faults that decoding is documented to fail with. -/
def Fault.isDocumented : Fault → Bool
  | .document _ | .unsupportedVersion _ | .extensionNotFound _ | .operationNotFound _ _ => true
  | _ => false

/-! ### Plain documents -/

def NodeDoc.isPlain (node : NodeDoc) : Bool := node.op.isPlain && node.parent.all Text.isWritable

def EdgeDoc.isPlain (edge : EdgeDoc) : Bool :=
  [edge.source.1, edge.source.2, edge.target.1, edge.target.2].all Text.isWritable

def ProgramDoc.isPlain (doc : ProgramDoc) : Bool := doc.nodes.all NodeDoc.isPlain && doc.edges.all EdgeDoc.isPlain

/-- Whether the version that data gives can be written, and the document in it is plain. -/
def Json.isPlainProgram : Json → Bool
  | .obj fields =>
    ((Json.field? "version" fields).getD .null).isWritable &&
      (ProgramDoc.ofFields? fields).all ProgramDoc.isPlain
  | _ => true

namespace Program

section

variable {allowed : Breakdown → Prop} {α : Type}

/-! ### Reporting -/

/-- A fault of the document or of what it refers to, or a breakdown that is allowed. -/
def Documented (allowed : Breakdown → Prop) (fault : Fault) : Prop :=
  fault.isDocumented = true ∨ ∃ cause, fault = .breakdown cause ∧ allowed cause

/-- What breaks down when the fault is to be written is allowed. -/
def BreaksOnly (allowed : Breakdown → Prop) (fault : Fault) : Prop :=
  ∀ cause, fault.checked = .breakdown cause → allowed cause

theorem breaksOnly_of_isReported {fault : Fault} (reported : fault.IsReported allowed) : BreaksOnly allowed fault := by
  intro cause broken
  cases fault with
  | signature own =>
    rw [Fault.checked] at broken
    split at broken
    · cases broken
    · rename_i unwritable
      cases broken
      exact harmless_riskUnless.1 reported (Bool.eq_false_iff.2 unwritable)
  | breakdown own =>
    cases broken
    exact reported.2
  | extensionNotFound | operationNotFound => cases broken
  | _ => exact reported.elim

theorem breaksOnly_of_isResolved {fault : Fault} (resolved : fault.IsResolved allowed) : BreaksOnly allowed fault := by
  rcases resolved with reported | ⟨own, rfl, held⟩
  · exact breaksOnly_of_isReported reported
  · intro cause broken
    cases broken
    exact held

theorem documented_checked {fault : Fault} (documented : fault.isDocumented = true)
    (written : fault.isWritable = false → allowed .value) : Documented allowed fault.checked := by
  rw [Fault.checked]
  split
  · exact .inl documented
  · rename_i unwritable
    exact .inr ⟨.value, rfl, written (Bool.eq_false_iff.2 unwritable)⟩

theorem failsOnly_failAtPosition {position : Int} {fault : Fault} (documented : fault.isDocumented = true)
    (written : fault.isWritable = false → allowed .value) :
    (failAtPosition position fault : Outcome α).FailsOnly (Documented allowed ·.fault) := by
  intro error failed
  cases failed
  exact documented_checked documented written

theorem failsOnly_failAtPosition_of_isWritable {position : Int} {fault : Fault} (documented : fault.isDocumented = true)
    (writable : fault.isWritable = true) :
    (failAtPosition position fault : Outcome α).FailsOnly (Documented allowed ·.fault) := by
  refine failsOnly_failAtPosition documented fun unwritable => ?_
  rw [writable] at unwritable
  cases unwritable

theorem failsOnly_relay {position : Int} {word : String → DocumentFault} {outcome : Outcome α}
    (writable : ∀ text, (Fault.document (word text)).isWritable = true)
    (fails : outcome.FailsOnly (BreaksOnly allowed ·.fault)) :
    (relay position word outcome).FailsOnly (Documented allowed ·.fault) := by
  cases outcome with
  | ok value => exact failsOnly_ok value
  | error error =>
    have breaks := fails error rfl
    rw [relay]
    split
    · rename_i isBreakdown
      intro found failed
      cases failed
      cases broken : error.fault.checked with
      | breakdown cause => exact .inr ⟨cause, rfl, breaks cause broken⟩
      | _ =>
        rw [broken] at isBreakdown
        cases isBreakdown
    · exact failsOnly_failAtPosition_of_isWritable rfl (writable _)

theorem failsOnly_decodeOp {registry : Registry} (sound : registry.Sound allowed) {node : NodeDoc × Nat}
    (plain : node.1.op.isPlain = false → allowed .value) :
    (ProgramDoc.decodeOp registry node).FailsOnly (Documented allowed ·.fault) := by
  have fails := node.1.op.fails_decode sound plain
  rw [ProgramDoc.decodeOp]
  cases decoded : node.1.op.decode registry with
  | ok op => exact failsOnly_ok op
  | error error =>
    rw [decoded] at fails
    dsimp only
    split
    · exact failsOnly_failAtPosition_of_isWritable rfl rfl
    · exact failsOnly_failAtPosition_of_isWritable rfl rfl
    · exact failsOnly_relay (fun _ => rfl) (fails.imp fun _ => breaksOnly_of_isResolved)

/-! ### Changes -/

theorem breaksOnly_shape {cause : StructureFault} (writable : (Fault.shape cause).isWritable = true) :
    BreaksOnly allowed (.shape cause) := by
  intro broken same
  rw [Fault.checked, if_pos writable] at same
  cases same

theorem failsOnly_checkNode (program : Program) (node : Node) :
    (program.checkNode node).FailsOnly (BreaksOnly allowed ·.fault) := by
  rw [checkNode]
  split
  · exact failsOnly_ok ()
  · exact failsOnly_failAt (breaksOnly_shape rfl)

theorem failsOnly_setParent (program : Program) (node parent : Node) :
    (setParent node parent).FailsOnly (BreaksOnly allowed ·.fault) program := by
  refine Change.failsOnly_ask_bind (program.failsOnly_checkNode node) fun _ => ?_
  refine Change.failsOnly_ask_bind (program.failsOnly_checkNode parent) fun _ => ?_
  refine Change.failsOnly_ask_bind ?_ fun _ => Change.failsOnly_within ?_
  · rw [checkNotRoot]
    split
    · exact failsOnly_failAt (breaksOnly_shape rfl)
    · exact failsOnly_ok ()
  · refine Change.failsOnly_ask_bind ?_ fun _ => ?_
    · rw [Hierarchy.checkAttachable]
      split
      · exact failsOnly_failAt (breaksOnly_shape rfl)
      · exact .ite (failsOnly_failAt (breaksOnly_shape rfl)) (failsOnly_ok ())
    · cases last : program.hierarchy.lastChild? parent with
      | none => exact Change.failsOnly_of_ok (by rw [Change.run_get_bind, last]; rfl)
      | some other => exact Change.failsOnly_of_ok (by rw [Change.run_get_bind, last]; rfl)

theorem failsOnly_checkPort (graph : PortGraph) {port : Port}
    (written : Text.isWritable port.offset = false → allowed .value) :
    (graph.checkPort port).FailsOnly (BreaksOnly allowed ·.fault) := by
  rw [PortGraph.checkPort, PortGraph.numPorts, PortGraph.slot]
  refine .bind (.bind ?_ fun _ => failsOnly_ok _) fun count => .ite (failsOnly_failAt ?_) (failsOnly_ok ())
  · split
    · exact failsOnly_ok _
    · exact failsOnly_failAt (breaksOnly_shape rfl)
  · intro cause broken
    rw [Fault.checked] at broken
    split at broken
    · cases broken
    · rename_i unwritable
      cases broken
      exact written (Bool.eq_false_iff.2 unwritable)

theorem failsOnly_connect (graph : PortGraph) {source target : Port} (kind : EdgeKind)
    (writtenSource : Text.isWritable source.offset = false → allowed .value)
    (writtenTarget : Text.isWritable target.offset = false → allowed .value) :
    (PortGraph.connect source target kind).FailsOnly (BreaksOnly allowed ·.fault) graph := by
  rw [PortGraph.connect]
  split
  · intro error new failed
    cases failed
    exact breaksOnly_shape rfl
  · refine Change.failsOnly_ask_bind (failsOnly_checkPort graph writtenSource) fun _ => ?_
    refine Change.failsOnly_ask_bind (failsOnly_checkPort graph writtenTarget) fun _ => ?_
    exact Change.failsOnly_of_ok rfl

/-! ### Whole documents -/

/-- What holds while nodes get their metadata and parents. -/
def Prepared (nodes : List Node) (program : Program) : Prop :=
  program.Consistent ∧ ∀ node ∈ nodes, program.graph.contains node = true

theorem Prepared.decodeNode {nodes : List Node} {program : Program} (prepared : Prepared nodes program) {doc : NodeDoc}
    {position : Nat} (inside : position < nodes.length)
    (written : doc.parent.all Text.isWritable = false → allowed .value) :
    (ProgramDoc.decodeNode nodes program (doc, position)).Meets (Prepared nodes) (Documented allowed ·.fault) := by
  obtain ⟨consistent, live⟩ := prepared
  refine ⟨fun after decoded => ⟨consistent.decodeNode decoded, fun node mem => ?_⟩, ?_⟩
  · rw [(decodeNode_keeps decoded).1]
    exact live node mem
  · have agrees : program.AgreesOn program.hierarchy.children := consistent
    obtain ⟨metadata, described, -, -⟩ :=
      agrees.run_decodeMetadata (live nodes[position] (List.getElem_mem inside)) doc
    rw [ProgramDoc.decodeNode, List.getElem?_eq_getElem inside]
    simp only [require, Outcome.pure_eq, Outcome.ok_bind, described]
    split
    · exact failsOnly_ok _
    · rename_i index isParent
      rw [isParent, Option.all_some] at written
      split
      · exact failsOnly_failAtPosition rfl written
      · split
        · exact failsOnly_failAtPosition rfl written
        · exact failsOnly_relay (fun _ => rfl) (failsOnly_setParent _ _ _).after

theorem failsOnly_decodeEdge (nodes : List Node) (program : Program) {edge : EdgeDoc}
    (plain : edge.isPlain = false → allowed .value) :
    (ProgramDoc.decodeEdge nodes program edge).FailsOnly (Documented allowed ·.fault) := by
  have found : ∀ position, (ProgramDoc.edgeEnd nodes edge position).FailsOnly (Documented allowed ·.fault) := by
    intro position
    have absent : (failAtPosition position (.document (.absentEnd edge.source edge.target)) : Outcome Node).FailsOnly
        (Documented allowed ·.fault) := failsOnly_failAtPosition rfl plain
    rw [ProgramDoc.edgeEnd]
    refine .ite absent ?_
    split
    · exact failsOnly_ok _
    · exact absent
  simp only [EdgeDoc.isPlain, List.all_cons, List.all_nil, Bool.and_true, allowed_of_and] at plain
  obtain ⟨-, writtenSource, -, writtenTarget⟩ := plain
  rw [ProgramDoc.decodeEdge]
  refine (found _).bind fun source => (found _).bind fun target => failsOnly_relay (fun _ => rfl) ?_
  refine Change.FailsOnly.after (.bind (Change.failsOnly_within ?_) fun _ _ => Change.failsOnly_of_ok rfl)
  exact failsOnly_connect program.graph edge.kind writtenSource writtenTarget

theorem failsOnly_decode {registry : Registry} (sound : registry.Sound allowed) {doc : ProgramDoc}
    (plain : doc.isPlain = false → allowed .value) : (doc.decode registry).FailsOnly (Documented allowed ·.fault) := by
  rw [ProgramDoc.isPlain, allowed_of_and, List.all_eq_false, List.all_eq_false] at plain
  have node : ∀ part ∈ doc.nodes, (part.op.isPlain = false → allowed .value) ∧
      (part.parent.all Text.isWritable = false → allowed .value) := by
    intro part mem
    rw [← allowed_of_and]
    exact fun odd => plain.1 ⟨part, mem, Bool.not_eq_true _ ▸ odd⟩
  rw [ProgramDoc.decode]
  refine .ite (failsOnly_fail (.inl rfl)) ?_
  have ops : (doc.nodes.zipIdx.mapM (ProgramDoc.decodeOp registry)).FailsOnly (Documented allowed ·.fault) :=
    failsOnly_mapM fun part mem => failsOnly_decodeOp sound (node part.1 (List.fst_mem_of_mem_zipIdx mem)).1
  refine ops.meets.failsOnly_bind fun found read => ?_
  split
  · rename_i first others rootOp rest nodes
    split
    · exact failsOnly_failAtPosition_of_isWritable rfl rfl
    · obtain ⟨start, run, scattered⟩ := @Scattered.run_addNodes rest _ _ (scattered_ofRoot rootOp)
      have added : ProgramDoc.addNodes rest (ofRoot rootOp) = _ := run
      simp only [added]
      -- as many nodes were added as the document has, and all of them are there
      have count : doc.nodes.length = rest.length + 1 := by
        have same := congrArg List.length (Outcome.mapM_eq_ok_iff.1 read)
        simpa using same
      have prepared : Prepared ((ofRoot rootOp).root :: (List.range' 1 rest.length).map Node.first) start := by
        refine ⟨scattered.agrees.consistent, fun live mem => (scattered.live_iff live).2 ?_⟩
        rcases List.mem_cons.1 mem with isRoot | isAdded
        · exact ⟨0, by simp, isRoot⟩
        · obtain ⟨index, isIndex, rfl⟩ := List.mem_map.1 isAdded
          exact ⟨index, by simpa [Nat.add_comm] using (List.mem_range'_1.1 isIndex).2, rfl⟩
      refine (meets_foldlM (Prepared _) (fun program part mem held => ?_) prepared).failsOnly_bind fun program _ => ?_
      · obtain ⟨-, below, isPart⟩ := List.mem_zipIdx mem
        exact held.decodeNode (by simp; omega) (node part.1 (List.fst_mem_of_mem_zipIdx mem)).2
      · refine (meets_foldlM (fun _ => True) (fun program edge mem _ => ⟨fun _ _ => trivial, ?_⟩) trivial).2
        exact failsOnly_decodeEdge _ _ fun odd => plain.2 ⟨edge, mem, Bool.not_eq_true _ ▸ odd⟩
  · exact failsOnly_fail (.inl rfl)

end

/-- Decoding returns a program or fails in a documented way. Everything else that escapes is a breakdown: over a number
in the data, or one that a definition of the registry risks. -/
theorem fails_as_documented {registry : Registry} (bounds : registry.BoundsWithin) (raises : registry.RaisesSignatures)
    {data : Json} {error : Error} (failed : ofJson registry data = .error error) :
    error.fault.isDocumented = true ∨
      ∃ cause, error.fault = .breakdown cause ∧
        (cause = .value ∧ data.isPlainProgram = false ∨ registry.Risks cause) := by
  let allowed (cause : Breakdown) : Prop := cause = .value ∧ data.isPlainProgram = false ∨ registry.Risks cause
  have sound : registry.Sound allowed := ⟨bounds, raises, fun _ => .inr⟩
  have plain : data.isPlainProgram = false → allowed .value := fun odd => .inl ⟨rfl, odd⟩
  have fails : (ofJson registry data).FailsOnly (Documented allowed ·.fault) := by
    cases data with
    | obj fields =>
      rw [Json.isPlainProgram, allowed_of_and] at plain
      obtain ⟨version, document⟩ := plain
      rw [ofJson]
      split
      · split
        · rename_i doc read
          rw [read] at document
          exact failsOnly_decode sound document
        · split
          · exact failsOnly_failAtPosition_of_isWritable rfl rfl
          · exact failsOnly_fail (.inl rfl)
      · exact failsOnly_fail (documented_checked rfl version)
    | _ => exact failsOnly_fail (.inl rfl)
  exact fails error failed

/-- A type whose bound is that of its only argument, and an operation whose rule refuses all arguments. -/
def box : Extension where
  name := "box"
  version := "0.1.0"
  reqs := ∅
  description := ""
  types := .ofList [("Box", ⟨"box", "Box", [.type .linear], "", .fromArgs [0]⟩)]
  operations := .ofList [("Open",
    ⟨"box", "Open", .computed ⟨[.type .linear], fun args => fail (.signature (.logicArgs args))⟩, "", []⟩)]
  values := ∅

def boxes : Registry := ⟨.ofList [("box", box)]⟩

theorem box_of_get {name : String} {owner : Extension} (found : boxes.get name = .ok owner) : owner = box := by
  rw [Registry.get_eq_ok_iff, Table.get?_eq_some_iff] at found
  exact congrArg Prod.snd (List.mem_singleton.1 found)

theorem boundsWithin_boxes : boxes.BoundsWithin := by
  intro extension name definition positions found isRule position mem
  obtain ⟨owner, isOwner, found⟩ := Outcome.bind_eq_ok_iff.1 found
  cases box_of_get isOwner
  split at found
  · rename_i known get
    cases found
    have isBox := congrArg Prod.snd (List.mem_singleton.1 ((Table.get?_eq_some_iff _ _ _).1 get))
    dsimp only at isBox
    subst isBox
    cases isRule
    rw [List.mem_singleton.1 mem]
    decide
  · cases found

theorem raisesSignatures_boxes : boxes.RaisesSignatures := by
  rintro fault ⟨extension, name, definition, rule, args, error, found, isRule, failed, rfl⟩
  obtain ⟨owner, isOwner, found⟩ := Outcome.bind_eq_ok_iff.1 found
  cases box_of_get isOwner
  split at found
  · rename_i known get
    cases found
    have isOpen := congrArg Prod.snd (List.mem_singleton.1 ((Table.get?_eq_some_iff _ _ _).1 get))
    dsimp only at isOpen
    subst isOpen
    cases isRule
    cases failed
    exact ⟨.logicArgs args, rfl⟩
  · cases found

/-- A program of one node, whose operation takes a box that it does not say the content of. -/
def unboxed : Json := .obj [("version", .str "v1"), ("edges", .arr []), ("nodes", .arr [.obj [("op",
  .obj [("op", .str "Noop"), ("ty", .obj [("t", .str "Opaque"), ("extension", .str "box"), ("id", .str "Box")])])]])]

theorem fails_as_documented_unboxed :
    ∃ error, ofJson boxes unboxed = .error error ∧ error.fault.isDocumented = true := by
  obtain ⟨error, failed⟩ : ∃ error, ofJson boxes unboxed = .error error := ⟨_, rfl⟩
  refine ⟨error, failed, (fails_as_documented boundsWithin_boxes raisesSignatures_boxes failed).resolve_right ?_⟩
  rintro ⟨cause, broken, -⟩
  cases failed
  cases broken

/-- A region whose requirements are a digit that is no number. -/
def superscript : Json := .obj [("version", .str "v1"), ("edges", .arr []), ("nodes", .arr [.obj [("op",
  .obj [("op", .str "DFG"), ("inputs", .arr []), ("outputs", .arr []), ("delta", .arr [.str "²"])])]])]

/-- The digit is neither read nor refused, although all definitions are as they should be. -/
theorem superscript_escapes : boxes.BoundsWithin ∧ boxes.RaisesSignatures ∧
    ∃ error, ofJson boxes superscript = .error error ∧ error.fault.isDocumented = false :=
  ⟨boundsWithin_boxes, raisesSignatures_boxes, _, rfl, rfl⟩

end Program

end NestedFlow
