import NestedFlow.Proofs.Program.Steps

/-! Changing edges, operations and metadata of nodes that stay. -/

set_option autoImplicit false

namespace NestedFlow.Program

open Hierarchy

variable {program : Program} {kids : Node → List Node}

theorem entry_eq_ok_iff {node : Node} {op : Op} : program.entry node = .ok op ↔ program.ops.get? node = some op :=
  Outcome.require_eq_ok_iff

/-- The declared kind of a port; none if its node has no operation with such a port. -/
def kindAt? (program : Program) (port : Port) : Option PortKind :=
  (program.ops.get? port.node).bind fun op => op.portKind? port.direction port.offset

theorem kindAt?_of_get? {port : Port} {op : Op} (found : program.ops.get? port.node = some op) :
    program.kindAt? port = op.portKind? port.direction port.offset := by
  rw [kindAt?, found, Option.bind_some]

theorem kindAt?_eq_some_iff {port : Port} {kind : PortKind} :
    program.kindAt? port = some kind ↔
      ∃ op, program.ops.get? port.node = some op ∧ op.portKind? port.direction port.offset = some kind :=
  Option.bind_eq_some_iff

theorem kindAt?_of_existingPort {port : Port} {kind : PortKind} (existing : program.existingPort port = .ok kind) :
    program.kindAt? port = some kind := by
  obtain ⟨op, found, further⟩ := Outcome.bind_eq_ok_iff.1 existing
  rw [kindAt?_of_get? (entry_eq_ok_iff.1 found)]
  split at further
  · cases further
    assumption
  · cases further

theorem unlinked_of_ok {found : Outcome (List Edge)} {refusal : Error} {next : Outcome EdgeKind} {kind : EdgeKind}
    (passed : (do
      let edges ← found
      if !edges.isEmpty then (do let _ ← (.error refusal : Outcome PUnit); next) else next) = .ok kind) :
    found = .ok [] ∧ next = .ok kind := by
  obtain ⟨edges, answered, further⟩ := Outcome.bind_eq_ok_iff.1 passed
  cases edges with
  | nil => exact ⟨answered, further⟩
  | cons edge rest => cases further

/-- What is checked before two ports are connected: they are ports of one kind, typed ports have one type, and where
one edge is allowed there is none yet. -/
theorem checkConnection_spec {source target : Port} {kind : EdgeKind}
    (checked : program.checkConnection source target = .ok kind) :
    ∃ origin goal, program.kindAt? source = some origin ∧ program.kindAt? target = some goal ∧ origin.kind = kind ∧
      goal.kind = kind ∧
      (kind.isTyped = true → origin.type = goal.type ∧ program.graph.portEdges target = .ok []) ∧
      (kind = .value ∧ origin.type.any PortType.isLinear = true → program.graph.portEdges source = .ok []) := by
  obtain ⟨_, _, checked⟩ := Outcome.bind_eq_ok_iff.1 checked
  obtain ⟨_, _, checked⟩ := Outcome.bind_eq_ok_iff.1 checked
  obtain ⟨origin, atSource, checked⟩ := Outcome.bind_eq_ok_iff.1 checked
  obtain ⟨goal, atTarget, checked⟩ := Outcome.bind_eq_ok_iff.1 checked
  refine ⟨origin, goal, kindAt?_of_existingPort atSource, kindAt?_of_existingPort atTarget, ?_⟩
  by_cases same : origin.kind = goal.kind
  · simp only [same, ne_eq, not_true_eq_false, if_false] at checked ⊢
    -- the last check is made whether or not the ports are typed
    generalize last : (if goal.kind = .value ∧ origin.type.any PortType.isLinear = true then _ else _ :
      Outcome EdgeKind) = outcome at checked
    have undriven : outcome = .ok kind → goal.kind = kind ∧
        (kind = .value ∧ origin.type.any PortType.isLinear = true → program.graph.portEdges source = .ok []) := by
      rintro rfl
      split at last
      · obtain ⟨none, known⟩ := unlinked_of_ok last
        cases known
        exact ⟨rfl, fun _ => none⟩
      · rename_i unlimited
        cases last
        exact ⟨rfl, fun linear => absurd linear unlimited⟩
    split at checked
    · split at checked
      · cases checked
      · rename_i equal
        obtain ⟨none, passed⟩ := unlinked_of_ok checked
        obtain ⟨known, limited⟩ := undriven passed
        exact ⟨known, known, fun _ => ⟨not_not.1 equal, none⟩, limited⟩
    · rename_i untyped
      obtain ⟨known, limited⟩ := undriven checked
      exact ⟨known, known, fun typed => absurd (known ▸ typed) untyped, limited⟩
  · rw [if_pos same] at checked
    cases checked

namespace AgreesOn

/-! ### Edges -/

theorem hasPort_of_kindAt? (agrees : program.AgreesOn kids) {port : Port} {kind : PortKind}
    (known : program.kindAt? port = some kind) : program.graph.HasPort port := by
  obtain ⟨op, found, isKind⟩ := kindAt?_eq_some_iff.1 known
  exact agrees.hasPort_of_portKind? found isKind

theorem linked (agrees : program.AgreesOn kids) {source target : Port} (kind : EdgeKind)
    (out : source.direction = .outgoing) (into : target.direction = .incoming)
    (hasSource : program.graph.HasPort source) (hasTarget : program.graph.HasPort target) :
    { program with graph := program.graph.linked source target kind }.AgreesOn kids :=
  agrees.withGraph (agrees.graph.linked kind out into hasSource hasTarget)
    (PortGraph.contains_linked kind hasSource hasTarget) (PortGraph.length_portsOf_linked kind hasSource hasTarget)

/-- An edge that passes the checks can be added. -/
theorem run_connect (agrees : program.AgreesOn kids) {source target : Node} {sourceOffset targetOffset : Int}
    {kind : EdgeKind}
    (checked : program.checkConnection (source.outputPort sourceOffset) (target.inputPort targetOffset) = .ok kind) :
    (connect source sourceOffset target targetOffset).run program =
        .ok ⟨program.graph.nextEdge, source.outputPort sourceOffset, target.inputPort targetOffset, kind⟩
          { program with
            graph := program.graph.linked (source.outputPort sourceOffset) (target.inputPort targetOffset) kind } ∧
      { program with
        graph := program.graph.linked (source.outputPort sourceOffset) (target.inputPort targetOffset) kind }.AgreesOn
          kids := by
  obtain ⟨origin, goal, atSource, atTarget, -⟩ := checkConnection_spec checked
  have hasSource := agrees.hasPort_of_kindAt? atSource
  have hasTarget := agrees.hasPort_of_kindAt? atTarget
  refine ⟨?_, agrees.linked kind rfl rfl hasSource hasTarget⟩
  simp only [connect, Change.run_ask_bind, checked]
  exact run_onGraph_of_ok (PortGraph.run_connect kind rfl rfl hasSource hasTarget)

theorem settles_connect (agrees : program.AgreesOn kids) (source : Node) (sourceOffset : Int) (target : Node)
    (targetOffset : Int) : (connect source sourceOffset target targetOffset).Settles program.Follows program := by
  cases checked : program.checkConnection (source.outputPort sourceOffset) (target.inputPort targetOffset) with
  | ok kind =>
    obtain ⟨run, kept⟩ := agrees.run_connect checked
    exact Change.settles_of_ok run (kept.follows (.link rfl rfl checked))
  | error error =>
    apply Change.settles_ask_bind
    intro kind found
    rw [checked] at found
    cases found

theorem settles_addOrder (agrees : program.AgreesOn kids) (source target : Node) :
    (addOrder source target).Settles program.Follows program := by
  apply Change.settles_ask_bind
  intro _ _
  apply Change.settles_ask_bind
  intro _ _
  apply Change.settles_ask_bind
  intro sourceOffset _
  apply Change.settles_ask_bind
  intro targetOffset _
  exact agrees.settles_connect source sourceOffset target targetOffset

theorem withoutEdges (agrees : program.AgreesOn kids) (ids : List Nat) :
    { program with graph := program.graph.withoutEdges ids }.AgreesOn kids :=
  agrees.withGraph (agrees.graph.withoutEdges ids) (PortGraph.contains_withoutEdges program.graph ids)
    fun node direction => by rw [PortGraph.portsOf_withoutEdges, List.length_map]

theorem settles_disconnect (agrees : program.AgreesOn kids) (id : Int) :
    (disconnect id).Settles program.Follows program := by
  by_cases recorded : ∃ (known : Nat) (link : Link), id = known ∧ program.graph.links.get? known = some link
  · obtain ⟨known, link, rfl, found⟩ := recorded
    exact Change.settles_of_ok (run_onGraph_of_ok (PortGraph.run_disconnect agrees.graph found))
      ((agrees.withoutEdges [known]).follows (.unlink [known]))
  · obtain ⟨error, run⟩ := @PortGraph.run_disconnect_of_not program.graph id fun known link same found =>
      recorded ⟨known, link, same, found⟩
    exact Change.settles_of_error (run_onGraph_of_error run)

/-! ### Operations -/

theorem replaced (agrees : program.AgreesOn kids) {node : Node} {op : Op}
    (live : program.graph.contains node = true) (fits : program.graph.Fits node op.portCount) :
    { program with
      graph := program.graph.resized node op.portCount
      ops := program.ops.insert node op }.AgreesOn kids where
  graph := agrees.graph.resized op.portCount live fits
  stores := agrees.stores
  ops_iff other := by
    rw [PortGraph.contains_resized op.portCount live, ← agrees.ops_iff, Table.keys_insert,
      if_pos ((agrees.ops_iff node).2 live)]
  metadata_live other mem :=
    (PortGraph.contains_resized op.portCount live other).trans (agrees.metadata_live other mem)
  kids_live parent other mem :=
    ⟨(PortGraph.contains_resized op.portCount live other).trans (agrees.kids_live parent other mem).1,
      (PortGraph.contains_resized op.portCount live parent).trans (agrees.kids_live parent other mem).2⟩
  root_live := (PortGraph.contains_resized op.portCount live program.root).trans agrees.root_live
  root_top := agrees.root_top
  portTotals other found get direction := by
    rw [Table.get?_insert_eq] at get
    rw [PortGraph.portsOf_resized op.portCount live]
    split at get
    · rename_i same
      rw [Option.some.injEq] at get
      rw [if_pos same, PortGraph.length_resize, get]
    · rename_i apart
      rw [if_neg apart]
      exact agrees.portTotals other found get direction

theorem run_replaceOp (agrees : program.AgreesOn kids) {node : Node} {op old : Op}
    (found : program.ops.get? node = some old) (fits : program.graph.Fits node op.portCount) :
    (replaceOp node op).run program = .ok old { program with
      graph := program.graph.resized node op.portCount
      ops := program.ops.insert node op } := by
  have live := agrees.contains_of_get? found
  rw [replaceOp, Change.run_ask_bind, agrees.checkNode_eq_ok_iff.2 live]
  refine (Change.run_bind_of_ok (run_onGraph_of_ok (PortGraph.run_setNumPorts live fits))).trans ?_
  simp only [Change.run_ask_bind, entry, found, require, Outcome.pure_eq, Change.run_modify_bind, Change.run_pure]

/-- An operation is not replaced by one that lacks a linked port. -/
theorem run_replaceOp_of_not (agrees : program.AgreesOn kids) {node : Node} {op : Op}
    (live : program.graph.contains node = true) (unfit : ¬ program.graph.Fits node op.portCount) :
    ∃ error, (replaceOp node op).run program = .error error program := by
  obtain ⟨error, run⟩ := @PortGraph.run_setNumPorts_of_not program.graph node op.portCount fun held => unfit held.2
  refine ⟨error, ?_⟩
  rw [replaceOp, Change.run_ask_bind, agrees.checkNode_eq_ok_iff.2 live]
  exact Change.run_bind_of_error (run_onGraph_of_error run)

theorem settles_replaceOp (agrees : program.AgreesOn kids) (node : Node) (op : Op) :
    (replaceOp node op).Settles Consistent program := by
  by_cases live : program.graph.contains node = true
  · obtain ⟨old, found⟩ := agrees.get?_of_contains live
    by_cases fits : program.graph.Fits node op.portCount
    · exact Change.settles_of_ok (agrees.run_replaceOp found fits) (agrees.replaced live fits).consistent
    · obtain ⟨error, run⟩ := agrees.run_replaceOp_of_not live fits
      exact Change.settles_of_error run
  · apply Change.settles_ask_bind
    intro _ checked
    exact absurd (agrees.checkNode_eq_ok_iff.1 checked) live

theorem settles_setMetadata (agrees : program.AgreesOn kids) (node : Node) (key : String) (value : Json) :
    (setMetadata node key value).Settles program.Follows program := by
  apply Change.settles_ask_bind
  intro _ checked
  have live : ∀ other ∈ (program.metadata.insert node ((program.metadata.getD node ∅).insert key value)).keys,
      program.graph.contains other = true := by
    intro other mem
    rw [Table.keys_insert] at mem
    split at mem
    · exact agrees.metadata_live other mem
    · rcases List.mem_append.1 mem with old | new
      · exact agrees.metadata_live other old
      · rw [List.mem_singleton.1 new]
        exact agrees.checkNode_eq_ok_iff.1 checked
  exact Change.settles_of_ok (Change.run_modify _ _) ((agrees.withMetadata live).follows (.describe _))

end AgreesOn

/-! ### Requirements -/

/-- Some nodes have operations whose requirements can be filled in. -/
def Annotatable (program : Program) (nodes : List Node) : Prop :=
  ∀ node ∈ nodes, ∃ op, program.ops.get? node = some op ∧ op.isAnnotatable = true

theorem op_eq_ok {node : Node} {op : Op} (found : program.op node = .ok op) : program.ops.get? node = some op := by
  obtain ⟨_, _, further⟩ := Outcome.bind_eq_ok_iff.1 found
  exact entry_eq_ok_iff.1 further

theorem requireNode_annotatable {before after : Requirements} {node : Node}
    (held : program.Annotatable before.undeclared.keys) (found : program.requireNode before node = .ok after) :
    program.Annotatable after.undeclared.keys := by
  obtain ⟨op, isOp, found⟩ := Outcome.bind_eq_ok_iff.1 found
  split at found
  · cases found
    exact held
  · obtain ⟨children, -, found⟩ := Outcome.bind_eq_ok_iff.1 found
    obtain ⟨parts, -, found⟩ := Outcome.bind_eq_ok_iff.1 found
    simp only at found
    split at found
    · split at found
      · rename_i annotatable
        cases found
        intro other mem
        rw [Table.keys_insert] at mem
        split at mem
        · exact held other mem
        · rcases List.mem_append.1 mem with old | new
          · exact held other old
          · rw [List.mem_singleton.1 new]
            exact ⟨op, op_eq_ok isOp, annotatable⟩
      · cases found
        exact held
    · split at found <;>
      · cases found
        exact held

theorem inferred_annotatable {found : Requirements} (inferred : program.inferred = .ok found) :
    program.Annotatable found.undeclared.keys := by
  obtain ⟨requirements, asked, further⟩ := Outcome.bind_eq_ok_iff.1 inferred
  obtain ⟨tree, -, folded⟩ := Outcome.bind_eq_ok_iff.1 asked
  have same : requirements = found := by
    split at further
    · cases further
      rfl
    · cases further
  subst same
  exact Outcome.foldlM_preserves (fun found : Requirements => program.Annotatable found.undeclared.keys)
    (fun _ _ _ _ held step => requireNode_annotatable held step) (fun node mem => by cases mem) folded

namespace AgreesOn

theorem run_declare (agrees : program.AgreesOn kids) {node : Node} {op : Op}
    (found : program.ops.get? node = some op) (annotatable : op.isAnnotatable = true) (delta : ExtensionSet) :
    ∃ declared, op.withDelta? delta = some declared ∧
      (declare node delta).run program = .ok () { program with ops := program.ops.insert node declared } ∧
      { program with ops := program.ops.insert node declared }.AgreesOn kids := by
  obtain ⟨declared, isDeclared⟩ := Op.exists_withDelta? annotatable delta
  refine ⟨declared, isDeclared, ?_, ?_⟩
  · simp only [declare, Change.run_ask_bind, entry, found, require, Outcome.pure_eq, Op.declare, isDeclared,
      Change.run_modify]
  · apply agrees.withOp (agrees.contains_of_get? found)
    intro direction
    rw [Op.portCount_withDelta? isDeclared]
    exact agrees.portTotals node op found direction

/-- Declaring requirements succeeds at nodes that can be annotated, and keeps them so. -/
theorem run_declareAll {entries : List (Node × ExtensionSet)} (agrees : program.AgreesOn kids)
    (annotatable : program.Annotatable (entries.map Prod.fst)) :
    ∃ new, (entries.forM fun (node, delta) => declare node delta).run program = .ok () new ∧ program.Follows new := by
  induction entries generalizing program with
  | nil => exact ⟨program, rfl, .refl⟩
  | cons entry rest ih =>
    obtain ⟨op, found, isAnnotatable⟩ := annotatable entry.1 List.mem_cons_self
    obtain ⟨declared, isDeclared, run, kept⟩ := agrees.run_declare found isAnnotatable entry.2
    obtain ⟨new, more, follows⟩ := ih kept fun other mem => by
      rw [Table.get?_insert_eq]
      split
      · exact ⟨declared, rfl, Op.isAnnotatable_withDelta? isDeclared⟩
      · exact annotatable other (List.mem_cons_of_mem _ mem)
    exact ⟨new, (Change.run_bind_of_ok run).trans more, (kept.follows (.declare found isDeclared)).trans follows⟩

theorem settles_inferExtensions (agrees : program.AgreesOn kids) :
    inferExtensions.Settles program.Follows program := by
  apply Change.settles_ask_bind
  intro found inferred
  obtain ⟨new, run, follows⟩ := agrees.run_declareAll (inferred_annotatable inferred)
  exact Change.settles_of_ok (Change.run_bind_of_ok run) follows

end AgreesOn

end NestedFlow.Program
