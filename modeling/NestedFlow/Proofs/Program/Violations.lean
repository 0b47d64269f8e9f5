import NestedFlow.Proofs.Program.Agreement
import NestedFlow.Proofs.Program.Accepted
import NestedFlow.Proofs.Program.Faults
import NestedFlow.Proofs.Program.Requirements

/-! Validation comes to an end, and lists violations at live nodes.

The structures of a reachable program agree, so that every question of a report has an answer, whatever the operations
are. What is left are the checks of operations and types: they are kept from breaking off as well, except where a type
takes its bound from a position before its first argument.
-/

set_option autoImplicit false

namespace NestedFlow.Program

open Hierarchy Report

/-- The error is at a node of the program. -/
def Locates (program : Program) (error : Error) : Prop :=
  ∃ node, error.place = some (.node node) ∧ program.contains node = true

/-- A report lists violations at nodes of the program, and breaks off only with an error that escapes. -/
abbrev LocatesAll (program : Program) (escapes : Error → Prop) (report : Report) : Prop :=
  report.Concludes program.Locates escapes

namespace AgreesOn

variable {program : Program} {kids : Node → List Node} {escapes : Error → Prop} {node : Node} {op : Op}

theorem locates_onNode (agrees : program.AgreesOn kids) (live : program.graph.contains node = true) (fault : Fault) :
    program.Locates (.onNode fault node) :=
  ⟨node, rfl, (agrees.contains_eq node).trans live⟩

/-- An error without a place gets that of the node at which it is found. -/
theorem locates_attach (agrees : program.AgreesOn kids) (live : program.graph.contains node = true) {error : Error}
    (bare : error.place = none) : program.Locates (error.attach node) := by
  refine ⟨node, ?_, (agrees.contains_eq node).trans live⟩
  rw [Error.attach, bare]
  rfl

theorem locatesAll_single (agrees : program.AgreesOn kids) (live : program.graph.contains node = true) (fault : Fault) :
    program.LocatesAll escapes (single node fault) :=
  concludes_single (agrees.locates_onNode live fault)

theorem locatesAll_ite (agrees : program.AgreesOn kids) (live : program.graph.contains node = true) {condition : Prop}
    [Decidable condition] (fault : Fault) :
    program.LocatesAll escapes (if condition then clean else single node fault) :=
  concludes_ite (agrees.locates_onNode live fault)

/-- The operation of a live node is known. -/
theorem locatesAll_op (agrees : program.AgreesOn kids) (live : program.graph.contains node = true) {next : Op → Report}
    (each : ∀ op, program.ops.get? node = some op → program.LocatesAll escapes (next op)) :
    program.LocatesAll escapes (program.op node >>= next) := by
  obtain ⟨op, found⟩ := agrees.get?_of_contains live
  rw [agrees.op_eq_ok_iff.2 found, Outcome.ok_bind]
  exact each op found

/-- The parent of a live node is known, and live. -/
theorem locatesAll_parent? (agrees : program.AgreesOn kids) (live : program.graph.contains node = true)
    {next : Option Node → Report} (top : program.LocatesAll escapes (next none))
    (each : ∀ parent, program.graph.contains parent = true → program.LocatesAll escapes (next (some parent))) :
    program.LocatesAll escapes (program.parent? node >>= next) := by
  rw [agrees.parent?_eq live, Outcome.ok_bind]
  cases above : program.hierarchy.parent? node with
  | none => exact top
  | some parent => exact each parent (agrees.kids_live parent node ((agrees.stores.parent_iff node parent).1 above)).2

/-! ### The whole program -/

theorem locatesAll_rootReport (agrees : program.AgreesOn kids) : program.LocatesAll escapes program.rootReport := by
  rw [rootReport, agrees.parent?_eq agrees.root_live, Outcome.ok_bind, agrees.graph.edges_both_eq agrees.root_live,
    Outcome.ok_bind]
  refine Outcome.meets_ok fun error mem => ?_
  obtain ⟨fault, rfl⟩ : ∃ fault, error = .onNode fault program.root := by
    rcases List.mem_append.1 mem with attached | linked
    · split at attached
      · exact ⟨_, List.mem_singleton.1 attached⟩
      · cases attached
    · split at linked
      · cases linked
      · exact ⟨_, List.mem_singleton.1 linked⟩
  exact agrees.locates_onNode agrees.root_live fault

theorem locatesAll_detachedReport (agrees : program.AgreesOn kids) :
    program.LocatesAll escapes program.detachedReport := by
  rw [detachedReport]
  refine concludes_forEach fun node mem => .ite (fun _ => concludes_clean) fun _ => ?_
  have live := PortGraph.mem_nodes.1 mem
  exact agrees.locatesAll_parent? live (agrees.locatesAll_single live _) fun _ _ => concludes_clean

theorem locatesAll_requirementsReport (agrees : program.AgreesOn kids) :
    program.LocatesAll escapes program.requirementsReport := by
  obtain ⟨found, asked, -⟩ := agrees.exists_requirements
  rw [requirementsReport, asked, Outcome.ok_bind]
  refine Outcome.meets_ok fun error mem => ?_
  obtain ⟨⟨node, missing⟩, listed, rfl⟩ := List.mem_map.1 mem
  refine agrees.locates_onNode ?_ _
  -- what is missing is recorded only at nodes whose operation was looked up
  rw [requirements, agrees.descendants_eq agrees.root_live, Outcome.ok_bind] at asked
  refine Outcome.foldlM_preserves
    (fun found => ∀ entry ∈ found.missing, program.graph.contains entry.1 = true) ?_ ?_ asked _ listed
  · intro before node after _ held required
    obtain ⟨op, isOp, -⟩ := Outcome.bind_eq_ok_iff.1 required
    rw [agrees.op_eq_ok_iff] at isOp
    have live := agrees.contains_of_get? isOp
    cases container : op.isContainer with
    | false =>
      rw [agrees.requireNode_of_leaf isOp container] at required
      cases required
      exact held
    | true =>
      rw [agrees.requireNode_of_container isOp container] at required
      cases required
      intro entry mem
      rw [Requirements.extended] at mem
      simp only at mem
      split at mem
      · exact held entry mem
      · rcases List.mem_append.1 mem with old | new
        · exact held entry old
        · rw [List.mem_singleton.1 new]
          exact live
  · exact fun _ mem => absurd mem List.not_mem_nil

/-! ### Children -/

theorem locatesAll_parentReport (agrees : program.AgreesOn kids) (live : program.graph.contains node = true) :
    program.LocatesAll escapes (program.parentReport node op) :=
  agrees.locatesAll_parent? live concludes_clean fun _ above =>
    agrees.locatesAll_op above fun _ _ => agrees.locatesAll_ite live _

theorem locatesAll_firstChildReport (agrees : program.AgreesOn kids) (live : program.graph.contains node = true)
    {first : Node} (firstLive : program.graph.contains first = true) :
    program.LocatesAll escapes (program.firstChildReport node op first) :=
  agrees.locatesAll_op firstLive fun _ _ => agrees.locatesAll_ite live _

theorem locatesAll_secondChildReport (agrees : program.AgreesOn kids) (live : program.graph.contains node = true)
    {second : Option Node} (secondLive : ∀ child ∈ second, program.graph.contains child = true) :
    program.LocatesAll escapes (program.secondChildReport node op second) := by
  cases second with
  | none => exact agrees.locatesAll_ite live _
  | some child => exact agrees.locatesAll_op (secondLive child rfl) fun _ _ => agrees.locatesAll_ite live _

section

variable (agrees : program.AgreesOn kids) {child : Node} (live : program.graph.contains child = true)

include agrees live

theorem locatesAll_inputReport {inner : Signature} :
    program.LocatesAll escapes (program.inputReport op inner child) :=
  agrees.locatesAll_op live fun found _ => by
    cases found with
    | input types => exact agrees.locatesAll_ite live _
    | _ => exact concludes_clean

theorem locatesAll_outputReport {inner : Signature} :
    program.LocatesAll escapes (program.outputReport op inner child) :=
  agrees.locatesAll_op live fun found _ => by
    cases found with
    | output types => exact agrees.locatesAll_ite live _
    | _ => exact concludes_clean

theorem locatesAll_strayReport : program.LocatesAll escapes (program.strayReport op child) :=
  agrees.locatesAll_op live fun found _ => by
    cases found with
    | input types => exact agrees.locatesAll_single live _
    | output types => exact agrees.locatesAll_single live _
    | _ => exact concludes_clean

/-- A case that is looked at belongs to a variant. -/
theorem locatesAll_caseReport {sumRows : List Row} {otherInputs outputs : Row} {index : Nat}
    (inside : index < sumRows.length) :
    program.LocatesAll escapes (program.caseReport sumRows otherInputs outputs child index) :=
  agrees.locatesAll_op live fun found _ => by
    cases found with
    | branch caseInputs caseOutputs delta =>
      simp only [Op.caseSignature?, itemAt?_natCast, List.getElem?_eq_getElem inside, Option.map_some]
      exact agrees.locatesAll_ite live _
    | _ => exact concludes_clean

theorem locatesAll_entryReport {inputs : Row} : program.LocatesAll escapes (program.entryReport inputs child) :=
  agrees.locatesAll_op live fun found _ => by
    cases found with
    | block entryInputs sumRows otherOutputs delta => exact agrees.locatesAll_ite live _
    | _ => exact concludes_clean

end

theorem locatesAll_boundaryReport (agrees : program.AgreesOn kids) {children : List Node}
    (live : ∀ child ∈ children, program.graph.contains child = true) :
    program.LocatesAll escapes (program.boundaryReport op children) := by
  rw [boundaryReport]
  split
  · exact concludes_clean
  · refine .also (.also ?_ ?_) ?_
    · exact concludes_forEach fun child mem => agrees.locatesAll_inputReport (live child (List.mem_of_mem_take mem))
    · exact concludes_forEach fun child mem =>
        agrees.locatesAll_outputReport (live child (List.mem_of_mem_drop (List.mem_of_mem_take mem)))
    · exact concludes_forEach fun child mem => agrees.locatesAll_strayReport (live child (List.mem_of_mem_drop mem))

theorem locatesAll_acyclicReport (agrees : program.AgreesOn kids) (live : program.graph.contains node = true) :
    program.LocatesAll escapes (program.acyclicReport node op) := by
  obtain ⟨pairs, found, -⟩ := agrees.exists_dependencies live
  rw [acyclicReport, found, Outcome.ok_bind]
  exact .ite (fun _ => agrees.locatesAll_single live _) fun _ => concludes_clean

theorem locatesAll_casesReport (agrees : program.AgreesOn kids) (live : program.graph.contains node = true)
    {sumRows : List Row} {otherInputs outputs : Row} {children : List Node}
    (childrenLive : ∀ child ∈ children, program.graph.contains child = true) :
    program.LocatesAll escapes (program.casesReport node sumRows otherInputs outputs children) := by
  rw [casesReport]
  refine (agrees.locatesAll_ite live _).also (concludes_forEach fun (child, index) mem => ?_)
  have inside := List.snd_lt_of_mem_zipIdx mem
  rw [Nat.add_zero, List.length_take] at inside
  have isChild := List.mem_of_mem_take (List.fst_mem_of_mem_zipIdx mem)
  exact agrees.locatesAll_caseReport (childrenLive child isChild) (inside.trans_le (Nat.min_le_left _ _))

/-! ### Control flow -/

theorem locatesAll_successorReport (agrees : program.AgreesOn kids) (live : program.graph.contains node = true)
    {index : Nat} {expected : Row} {edge : Edge} (target : program.graph.contains edge.target.node = true) :
    program.LocatesAll escapes (program.successorReport node index expected edge) :=
  agrees.locatesAll_op target fun _ _ => by
    split
    · exact concludes_clean
    · exact agrees.locatesAll_ite live _

/-- A variant that is looked at exists, and has a port of its own. -/
theorem locatesAll_variantReport (agrees : program.AgreesOn kids) {sumRows : List Row} {otherOutputs : Row}
    {index : Nat} (has : program.graph.HasPort (node.outputPort index)) (inside : index < sumRows.length) :
    program.LocatesAll escapes (program.variantReport node sumRows otherOutputs index) := by
  have live : program.graph.contains node = true := PortGraph.contains_of_hasPort has
  rw [variantReport, agrees.portEdges_eq has, Outcome.ok_bind]
  simp only [Op.successorInput?, itemAt?_natCast, List.getElem?_eq_getElem inside, Option.map_some]
  refine .also ?_ (concludes_forEach fun edge mem => ?_)
  · split
    · exact agrees.locatesAll_single live _
    · exact concludes_clean
    · exact agrees.locatesAll_single live _
  · obtain ⟨link, found, -, isEdge⟩ := agrees.graph.mem_edgesAt.1 (List.mem_of_mem_filter mem)
    refine agrees.locatesAll_successorReport live ?_
    rw [isEdge]
    exact agrees.graph.contains_end found .incoming

theorem locatesAll_blockReport (agrees : program.AgreesOn kids) (live : program.graph.contains node = true) :
    program.LocatesAll escapes (program.blockReport node) :=
  agrees.locatesAll_op live fun found isOp => by
    cases found with
    | block inputs sumRows otherOutputs delta =>
      simp only [agrees.numPorts_eq isOp, Outcome.ok_bind]
      refine concludes_forEach fun index mem => ?_
      obtain ⟨inRows, inPorts⟩ := Nat.lt_min.1 (List.mem_range.1 mem)
      exact agrees.locatesAll_variantReport (agrees.hasPort_of_lt isOp inPorts) inRows
    | _ => exact concludes_clean

theorem locatesAll_controlReport (agrees : program.AgreesOn kids) (live : program.graph.contains node = true)
    {inputs outputs : Row} {children : List Node}
    (childrenLive : ∀ child ∈ children, program.graph.contains child = true) :
    program.LocatesAll escapes (program.controlReport node inputs outputs children) := by
  rw [controlReport_of_exits (agrees.exits_eq childrenLive)]
  refine .also ?_ (.also ?_ (.also ?_ ?_))
  · exact concludes_forEach fun child mem =>
      agrees.locatesAll_entryReport (childrenLive child (List.mem_of_mem_take mem))
  · exact .when fun _ => agrees.locatesAll_single live _
  · refine concludes_forEach fun exit mem => agrees.locatesAll_ite ?_ _
    obtain ⟨child, isChild, listed⟩ := List.mem_flatMap.1 mem
    rw [exitAt.eq_def] at listed
    split at listed
    · rw [List.mem_singleton.1 listed]
      exact childrenLive child isChild
    · cases listed
  · exact concludes_forEach fun child mem => agrees.locatesAll_blockReport (childrenLive child mem)

theorem locatesAll_kindReport (agrees : program.AgreesOn kids) (live : program.graph.contains node = true)
    {children : List Node} (childrenLive : ∀ child ∈ children, program.graph.contains child = true) :
    program.LocatesAll escapes (program.kindReport node op children) := by
  cases op with
  | conditional sumRows otherInputs outputs delta => exact agrees.locatesAll_casesReport live childrenLive
  | cfg inputs outputs delta => exact agrees.locatesAll_controlReport live childrenLive
  | _ => exact concludes_clean

theorem locatesAll_childrenReport (agrees : program.AgreesOn kids) (live : program.graph.contains node = true) :
    program.LocatesAll escapes (program.childrenReport node op) := by
  have asked := agrees.children_eq live
  have childrenLive : ∀ child ∈ kids node, program.graph.contains child = true :=
    fun child isChild => (agrees.kids_live node child isChild).1
  match listed : kids node with
  | [] =>
    rw [childrenReport, asked, listed, Outcome.ok_bind]
    exact .ite (fun _ => agrees.locatesAll_single live _) fun _ => concludes_clean
  | first :: rest =>
    rw [listed] at asked childrenLive
    by_cases leaf : op.childRules.allowed = .none
    · rw [childrenReport, asked, Outcome.ok_bind]
      simp only [leaf, if_true]
      exact concludes_clean
    · rw [childrenReport_of_cons asked leaf]
      refine .also (agrees.locatesAll_firstChildReport live (childrenLive first List.mem_cons_self)) (.also ?_ (.also ?_
        (.also ?_ (agrees.locatesAll_kindReport live childrenLive))))
      · exact agrees.locatesAll_secondChildReport live fun child mem =>
          childrenLive child (List.mem_cons_of_mem first (List.mem_of_head? mem))
      · exact .when fun _ => agrees.locatesAll_boundaryReport childrenLive
      · exact .when fun _ => agrees.locatesAll_acyclicReport live

/-! ### Operations and types -/

/-- The parameters of the nearest function are found: all nodes around a node are live. -/
theorem exists_scopeOf (agrees : program.AgreesOn kids) (node : Node) : ∃ scope, program.scopeOf node = .ok scope := by
  have further : ∀ above : List Node, (∀ ancestor ∈ above, program.graph.contains ancestor = true) →
      ∃ scope, scopeOf.nearest program above = .ok scope := by
    -- on the way up, where the search ends at a function or beyond the root
    intro above
    induction above with
    | nil => exact fun _ => ⟨[], rfl⟩
    | cons ancestor rest ih =>
      intro live
      rw [List.forall_mem_cons] at live
      obtain ⟨op, found⟩ := agrees.get?_of_contains live.1
      rw [scopeOf.nearest, agrees.op_eq_ok_iff.2 found, Outcome.ok_bind]
      cases op with
      | funcDefn name signature => exact ⟨signature.params, rfl⟩
      | _ => exact ih live.2
  exact further _ fun ancestor mem => agrees.mem_nodes_of_above (agrees.stores.mem_ancestors.1 mem)

theorem locatesAll_typeReport (agrees : program.AgreesOn kids) (live : program.graph.contains node = true)
    {registry : Registry} (bounds : registry.BoundsWithin) :
    program.LocatesAll escapes (program.typeReport registry node op) := by
  obtain ⟨scope, found⟩ := agrees.exists_scopeOf node
  rw [typeReport, found, Outcome.ok_bind]
  refine concludes_forEach fun type _ => concludes_ofCheck ?_ ?_
  · exact (failsByTypes_checkPortType registry scope type).imp fun error held broken =>
      absurd bounds (held.breaks broken).2
  · exact (failsByTypes_checkPortType registry scope type).imp fun error held _ => agrees.locates_attach live held.bare

/-! ### Edges -/

theorem locatesAll_edgeReport (agrees : program.AgreesOn kids) {edge : Edge}
    (liveSource : program.graph.contains edge.source.node = true)
    (liveTarget : program.graph.contains edge.target.node = true) :
    program.LocatesAll escapes (program.edgeReport edge) := by
  obtain ⟨op, atSource⟩ := agrees.get?_of_contains liveSource
  obtain ⟨other, atTarget⟩ := agrees.get?_of_contains liveTarget
  have source := agrees.portKind?_eq atSource
  have target := agrees.portKind?_eq atTarget
  match first : op.portKind? edge.source.direction edge.source.offset,
    second : other.portKind? edge.target.direction edge.target.offset with
  | some start, some stop =>
    rw [first] at source
    rw [second] at target
    obtain ⟨inScope, found⟩ := @exists_isLocal _ _ agrees edge start.type liveSource liveTarget
    rw [edgeReport_of_kinds source target found]
    -- the types of the ends are reported at the target, what else is wrong at the source
    refine .ite (fun _ => agrees.locatesAll_single liveSource _) fun _ => Concludes.also (.when fun _ => ?_) ?_
    · exact agrees.locatesAll_single liveTarget _
    · exact agrees.locatesAll_ite liveSource _
  | none, _ =>
    rw [edgeReport, source, target, first]
    exact agrees.locatesAll_single liveSource _
  | some start, none =>
    rw [edgeReport, source, target, first, second]
    exact agrees.locatesAll_single liveSource _

theorem locatesAll_edgesReport (agrees : program.AgreesOn kids) (live : program.graph.contains node = true) :
    program.LocatesAll escapes (program.edgesReport node) := by
  rw [edgesReport, agrees.graph.edges_eq live, Outcome.ok_bind]
  refine concludes_forEach fun edge mem => .ite (fun held => ?_) fun _ => concludes_clean
  obtain ⟨link, found, -, isEdge⟩ := agrees.graph.mem_edgesOf.1 mem
  refine agrees.locatesAll_edgeReport ?_ ((agrees.contains_eq _).symm.trans held)
  rw [isEdge]
  exact agrees.graph.contains_end found .outgoing

theorem locatesAll_linkReport (agrees : program.AgreesOn kids) (found : program.ops.get? node = some op)
    {direction : Direction} {offset : Nat} :
    program.LocatesAll escapes (program.linkReport node op direction offset) := by
  have live := agrees.contains_of_get? found
  rw [linkReport]
  cases known : op.portKind? direction offset with
  | none => exact concludes_clean
  | some kind =>
    have has : program.graph.HasPort ⟨node, direction, offset⟩ := agrees.hasPort_of_portKind? found known
    refine .ite (fun _ => concludes_clean) fun _ => ?_
    rw [agrees.portEdges_eq has, Outcome.ok_bind]
    cases direction with
    | incoming => exact agrees.locatesAll_ite live _
    | outgoing =>
      refine .ite (fun _ => ?_) fun _ => concludes_clean
      split
      · exact agrees.locatesAll_single live _
      · exact concludes_clean
      · exact agrees.locatesAll_single live _

theorem locatesAll_linksReport (agrees : program.AgreesOn kids) (live : program.graph.contains node = true) :
    program.LocatesAll escapes (program.linksReport node) := by
  rw [linksReport]
  refine .ite (fun _ => concludes_clean) fun _ => agrees.locatesAll_op live fun op found => ?_
  refine concludes_forEach fun direction _ => ?_
  rw [agrees.numPorts_eq found, Outcome.ok_bind]
  exact concludes_forEach fun offset _ => agrees.locatesAll_linkReport found

end AgreesOn

/-! ### The whole report -/

/-- An operation of the program, or a definition of the registry, holds a type with a bound from a position before the
first argument. -/
def Overreaches (program : Program) (registry : Registry) : Prop :=
  (∃ node op, program.op node = .ok op ∧ .position ∈ op.risks) ∨ registry.Risks .position

/-- An error at a node of the program, or one that a rule of an extension has placed. -/
def Reported (program : Program) (registry : Registry) (error : Error) : Prop :=
  program.Locates error ∨ error.place.isSome = true ∧ registry.Throws error

namespace AgreesOn

variable {program : Program} {kids : Node → List Node} {registry : Registry} {node : Node} {op : Op}

/-- What escapes is the position of a bound. -/
theorem concludes_checkOp (agrees : program.AgreesOn kids) (found : program.ops.get? node = some op)
    (raises : ∀ fault, registry.Raises fault → fault.isBreakdown = false) :
    (ofCheck node (checkOp registry op)).Concludes (program.Reported registry)
      fun error => error.fault = .breakdown .position ∧ program.Overreaches registry := by
  refine concludes_ofCheck ((failsOnly_checkOp registry op).imp ?_) ((failsOnly_checkOp registry op).imp ?_)
  · rintro error (held | throws) broken
    -- the bound may be that of a type in the operation or of one in a definition
    · refine (held.breaks broken).imp_right (Or.imp_left fun risk => ?_)
      exact ⟨node, op, agrees.op_eq_ok_iff.2 found, risk⟩
    · rw [raises error.fault throws.raises] at broken
      cases broken
  · rintro error (held | throws) -
    · exact .inl (agrees.locates_attach (agrees.contains_of_get? found) held.bare)
    · obtain ⟨fault, place⟩ := error
      cases place with
      | none => exact .inl (agrees.locates_attach (agrees.contains_of_get? found) rfl)
      | some place => exact .inr ⟨rfl, throws⟩

theorem concludes_validate (agrees : program.AgreesOn kids) (bounds : registry.BoundsWithin)
    (raises : ∀ fault, registry.Raises fault → fault.isBreakdown = false) (requirements : Bool) :
    (program.validate registry requirements).Concludes (program.Reported registry)
      fun error => error.fault = .breakdown .position ∧ program.Overreaches registry := by
  have live : ∀ node ∈ program.hierarchy.descendants program.root, program.graph.contains node = true :=
    fun node mem => agrees.contains_of_below agrees.root_live (agrees.stores.mem_descendants.1 mem)
  have reported : ∀ error, program.Locates error → program.Reported registry error := fun _ => .inl
  rw [validate_of_tree (agrees.descendants_eq agrees.root_live)]
  refine agrees.empty_integrityReport.concludes.also ((agrees.locatesAll_rootReport.imp reported).also
    ((agrees.locatesAll_detachedReport.imp reported).also (.also (concludes_forEach fun node mem => ?_)
      (.also (concludes_forEach fun node mem => ?_)
        (.when fun _ => agrees.locatesAll_requirementsReport.imp reported)))))
  · have live := live node mem
    obtain ⟨op, found⟩ := agrees.get?_of_contains live
    rw [nodeReport_of_op (agrees.op_eq_ok_iff.2 found)]
    exact (agrees.empty_portReport found).concludes.also (((agrees.locatesAll_parentReport live).imp reported).also
      (((agrees.locatesAll_childrenReport live).imp reported).also
        ((agrees.concludes_checkOp found raises).also ((agrees.locatesAll_typeReport live bounds).imp reported))))
  · have live := live node mem
    exact .imp (.also (agrees.locatesAll_edgesReport live) (agrees.locatesAll_linksReport live)) reported

end AgreesOn

/-- A region that begins with an output, and holds operations of an unknown extension and of a rule that refuses all
arguments, a conditional without cases, and a block in the place of a case; a node of it is detached. -/
def disordered : Program :=
  (ofRoot (.dfg [] [] none)).edited [
    .addChild ⟨0, 0⟩ (.output []),
    .addChild ⟨0, 0⟩ (.extension "ghost" "Op" [] ⟨[], [], ∅⟩),
    .addChild ⟨0, 0⟩ (.extension "box" "Open" [.type (.tuple [])] ⟨[], [], ∅⟩),
    .addChild ⟨0, 0⟩ (.conditional [[], []] [] [] none),
    .addChild ⟨4, 0⟩ (.branch [] [] none),
    .addChild ⟨0, 0⟩ (.noop (.tuple [])),
    .replaceOp ⟨5, 0⟩ (.block [] [[]] [] none),
    .detach ⟨6, 0⟩]

/-- A call of a function over a type that no extension defines, and that takes its bound from five before its end. -/
def reachingBack : Program :=
  ofRoot (.call ⟨[.type .linear], ⟨[.custom "ghost" "T" [.type (.var 0 .linear)] .linear (some [0, -5])], [], ∅⟩⟩
    [.type (.tuple [])] ⟨[], [], ∅⟩)

end NestedFlow.Program
