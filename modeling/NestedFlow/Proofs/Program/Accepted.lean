import NestedFlow.Proofs.Dependency
import NestedFlow.Proofs.Program.Questions
import NestedFlow.Proofs.Program.Reachable
import NestedFlow.Proofs.Report

/-! What it means that validation finds nothing, report by report. -/

set_option autoImplicit false

namespace NestedFlow.Program.AgreesOn

open Hierarchy Report

variable {program : Program} {kids : Node → List Node}

/-! ### The whole program -/

theorem empty_integrityReport (agrees : program.AgreesOn kids) : program.integrityReport.Empty := by
  rw [Report.Empty, integrityReport, agrees.graph.edgeProblems_eq]
  rfl

/-- Nothing is connected to the root. -/
theorem empty_rootReport_iff (agrees : program.AgreesOn kids) :
    program.rootReport.Empty ↔ ∀ direction, program.graph.edgesOf program.root direction = [] := by
  have top : program.hierarchy.parent? program.root = none :=
    (agrees.stores.parent?_eq_none_iff program.root).2 agrees.root_top
  rw [Report.Empty, rootReport, agrees.parent?_eq agrees.root_live, Outcome.ok_bind,
    agrees.graph.edges_both_eq agrees.root_live, Outcome.ok_bind, top]
  cases incoming : program.graph.edgesOf program.root .incoming with
  | cons edge rest =>
    refine iff_of_false (by simp) fun none => ?_
    rw [none .incoming] at incoming
    cases incoming
  | nil =>
    cases outgoing : program.graph.edgesOf program.root .outgoing with
    | cons edge rest =>
      refine iff_of_false (by simp) fun none => ?_
      rw [none .outgoing] at outgoing
      cases outgoing
    | nil =>
      refine iff_of_true rfl fun direction => ?_
      cases direction with
      | incoming => exact incoming
      | outgoing => exact outgoing

/-- Every node but the root has a parent. -/
theorem empty_detachedReport_iff (agrees : program.AgreesOn kids) :
    program.detachedReport.Empty ↔
      ∀ node, program.graph.contains node = true → node ≠ program.root → ∃ parent, node ∈ kids parent := by
  rw [detachedReport, empty_forEach_iff]
  apply forall_congr'
  intro node
  rw [PortGraph.mem_nodes]
  apply imp_congr_right
  intro live
  by_cases isRoot : node = program.root
  · rw [if_pos isRoot]
    exact iff_of_true rfl fun apart => absurd isRoot apart
  · rw [if_neg isRoot, agrees.parent?_eq live, Outcome.ok_bind]
    cases above : program.hierarchy.parent? node with
    | none =>
      refine iff_of_false (not_empty_single _ _) fun attached => ?_
      obtain ⟨parent, isChild⟩ := attached isRoot
      exact (agrees.stores.parent?_eq_none_iff node).1 above parent isChild
    | some parent =>
      exact iff_of_true rfl fun _ => ⟨parent, (agrees.stores.parent_iff node parent).1 above⟩

/-- If every node but the root has a parent, then all of them are in the tree under the root. -/
theorem mem_tree (agrees : program.AgreesOn kids)
    (attached : ∀ node, program.graph.contains node = true → node ≠ program.root → ∃ parent, node ∈ kids parent)
    {node : Node} : node ∈ program.hierarchy.descendants program.root ↔ program.graph.contains node = true := by
  rw [agrees.stores.mem_descendants]
  constructor
  · rintro (same | path)
    · exact same ▸ agrees.root_live
    · obtain ⟨parent, -, holds⟩ := Relation.TransGen.tail'_iff.1 path
      exact (agrees.kids_live parent node holds).1
  · intro live
    induction node using agrees.stores.grounded.induction with
    | _ node ih =>
      by_cases isRoot : node = program.root
      · exact .inl isRoot
      · obtain ⟨parent, isChild⟩ := attached node live isRoot
        right
        rcases ih parent isChild (agrees.kids_live parent node isChild).2 with same | path
        · exact .single (same ▸ isChild)
        · exact path.tail isChild

/-! ### Edges -/

/-- Where an edge may lead, by its kind. -/
def Local (program : Program) (kids : Node → List Node) (edge : Edge) (type : Option PortType) : Prop :=
  ∃ parent, edge.source.node ∈ kids parent ∧
    match edge.kind with
    | .value =>
      edge.target.node ∈ kids parent ∨
        (type.any fun type => !type.isLinear) = true ∧ Above kids parent edge.target.node
    | .order => edge.target.node ∈ kids parent
    | .static => Above kids parent edge.target.node
    | .controlFlow =>
      edge.target.node ∈ kids parent ∧ ∃ inputs outputs delta, program.ops.get? parent = some (.cfg inputs outputs delta)

theorem isLocal_eq_ok_true_iff (agrees : program.AgreesOn kids) {edge : Edge} {type : Option PortType}
    (liveSource : program.graph.contains edge.source.node = true)
    (liveTarget : program.graph.contains edge.target.node = true) :
    program.isLocal edge type = .ok true ↔ Local program kids edge type := by
  rw [isLocal, Local, agrees.parent?_eq liveSource, Outcome.ok_bind, agrees.parent?_eq liveTarget, Outcome.ok_bind]
  have sibling : ∀ parent, program.hierarchy.parent? edge.target.node = some parent ↔ edge.target.node ∈ kids parent :=
    fun parent => agrees.stores.parent_iff edge.target.node parent
  cases above : program.hierarchy.parent? edge.source.node with
  | none =>
    refine iff_of_false (fun same => by cases same) ?_
    rintro ⟨parent, isChild, -⟩
    exact (agrees.stores.parent?_eq_none_iff _).1 above parent isChild
  | some parent =>
    have isChild := (agrees.stores.parent_iff _ _).1 above
    -- the only parent that has to be looked at is the one that is stored
    have only : ∀ {claim : Node → Prop}, (∃ other, edge.source.node ∈ kids other ∧ claim other) ↔ claim parent := by
      intro claim
      constructor
      · rintro ⟨other, inOther, held⟩
        rwa [agrees.stores.parent_unique isChild inOther]
      · exact fun held => ⟨parent, isChild, held⟩
    rw [only]
    cases edge.kind with
    | value =>
      simp only [Outcome.pure_eq, Except.ok.injEq, decide_eq_true_eq, sibling, agrees.stores.isAncestor_iff]
    | order => simp only [Outcome.pure_eq, Except.ok.injEq, decide_eq_true_eq, sibling]
    | static => simp only [Outcome.pure_eq, Except.ok.injEq, agrees.stores.isAncestor_iff]
    | controlFlow =>
      simp only
      split
      · rename_i here
        rw [sibling] at here
        obtain ⟨op, found⟩ := agrees.get?_of_contains (agrees.kids_live parent _ here).2
        rw [agrees.op_eq_ok_iff.2 found, Outcome.ok_bind, found]
        simp only [here, true_and, Option.some.injEq]
        cases op <;> simp
      · rename_i elsewhere
        rw [sibling] at elsewhere
        simp [elsewhere]

/-- Between live nodes it can be told whether an edge stays where it may. -/
theorem exists_isLocal (agrees : program.AgreesOn kids) {edge : Edge} {type : Option PortType}
    (liveSource : program.graph.contains edge.source.node = true)
    (liveTarget : program.graph.contains edge.target.node = true) :
    ∃ inScope, program.isLocal edge type = .ok inScope := by
  rw [isLocal, agrees.parent?_eq liveSource, Outcome.ok_bind, agrees.parent?_eq liveTarget, Outcome.ok_bind]
  cases above : program.hierarchy.parent? edge.source.node with
  | none => exact ⟨false, rfl⟩
  | some parent =>
    have isChild := (agrees.stores.parent_iff _ _).1 above
    obtain ⟨op, found⟩ := agrees.get?_of_contains (agrees.kids_live parent _ isChild).2
    cases edge.kind with
    | controlFlow =>
      simp only [agrees.op_eq_ok_iff.2 found, Outcome.ok_bind]
      split
      · split <;> exact ⟨_, rfl⟩
      · exact ⟨false, rfl⟩
    | _ => exact ⟨_, rfl⟩

/-- An edge joins ports of its kind, with equal types if they have any, and does not lead too far. -/
def Joined (program : Program) (kids : Node → List Node) (edge : Edge) : Prop :=
  ∃ op other start stop, program.ops.get? edge.source.node = some op ∧
    program.ops.get? edge.target.node = some other ∧
    op.portKind? edge.source.direction edge.source.offset = some start ∧
    other.portKind? edge.target.direction edge.target.offset = some stop ∧
    start.kind = edge.kind ∧ stop.kind = edge.kind ∧ (edge.kind.isTyped = true → start.type = stop.type) ∧
    Local program kids edge start.type

theorem empty_edgeReport_iff (agrees : program.AgreesOn kids) {edge : Edge}
    (liveSource : program.graph.contains edge.source.node = true)
    (liveTarget : program.graph.contains edge.target.node = true) :
    (program.edgeReport edge).Empty ↔ Joined program kids edge := by
  obtain ⟨op, atSource⟩ := agrees.get?_of_contains liveSource
  obtain ⟨other, atTarget⟩ := agrees.get?_of_contains liveTarget
  have source := agrees.portKind?_eq atSource
  have target := agrees.portKind?_eq atTarget
  rw [Joined]
  simp only [atSource, atTarget, Option.some.injEq, exists_and_left, exists_eq_left']
  -- where an end is no port there is a problem, and nothing is joined
  cases first : op.portKind? edge.source.direction edge.source.offset with
  | none =>
    rw [Report.Empty, edgeReport, source, target, first]
    simp [Report.single]
  | some start =>
    cases second : other.portKind? edge.target.direction edge.target.offset with
    | none =>
      rw [Report.Empty, edgeReport, source, target, first, second]
      simp [Report.single]
    | some stop =>
      rw [first] at source
      rw [second] at target
      obtain ⟨inScope, found⟩ := @exists_isLocal _ _ agrees edge start.type liveSource liveTarget
      simp only [Option.some.injEq, exists_eq_left']
      rw [← agrees.isLocal_eq_ok_true_iff liveSource liveTarget, found, edgeReport_of_kinds source target found]
      by_cases clash : start.kind ≠ stop.kind ∨ stop.kind ≠ edge.kind
      · rw [if_pos clash]
        refine iff_of_false (not_empty_single _ _) ?_
        rintro ⟨isStart, isStop, -⟩
        rcases clash with differ | differ
        · exact differ (isStart.trans isStop.symm)
        · exact differ isStop
      · rw [if_neg clash, empty_also_iff, empty_when_iff, empty_ite_iff]
        simp only [not_or, not_not] at clash
        have kinds : start.kind = edge.kind ∧ stop.kind = edge.kind := ⟨clash.1.trans clash.2, clash.2⟩
        simp only [kinds, true_and, not_empty_single, imp_false, not_and, ne_eq, not_not, Except.ok.injEq]

/-- If one end of an edge carries values of a type, then the other end does too. -/
theorem Joined.carries {edge : Edge} {ty : Ty} {direction : Direction} (joined : Joined program kids edge)
    (known : program.kindAt? (edge.port direction) = some ⟨.value, some (.value ty)⟩) :
    edge.kind = .value ∧ Local program kids edge (some (.value ty)) ∧
      ∀ side, program.kindAt? (edge.port side) = some ⟨.value, some (.value ty)⟩ := by
  obtain ⟨first, second, start, stop, atSource, atTarget, isStart, isStop, startKind, stopKind, types, nearby⟩ := joined
  have atStart : program.kindAt? (edge.port .outgoing) = some start := (kindAt?_of_get? atSource).trans isStart
  have atStop : program.kindAt? (edge.port .incoming) = some stop := (kindAt?_of_get? atTarget).trans isStop
  have both : start = ⟨.value, some (.value ty)⟩ ∧ stop = ⟨.value, some (.value ty)⟩ := by
    cases direction with
    | outgoing =>
      obtain rfl : start = ⟨.value, some (.value ty)⟩ := Option.some.inj (atStart.symm.trans known)
      have typed : edge.kind.isTyped = true := by rw [← startKind]; rfl
      refine ⟨rfl, ?_⟩
      obtain ⟨kind, type⟩ := stop
      rw [PortKind.mk.injEq]
      exact ⟨stopKind.trans startKind.symm, (types typed).symm⟩
    | incoming =>
      obtain rfl : stop = ⟨.value, some (.value ty)⟩ := Option.some.inj (atStop.symm.trans known)
      have typed : edge.kind.isTyped = true := by rw [← stopKind]; rfl
      refine ⟨?_, rfl⟩
      obtain ⟨kind, type⟩ := start
      rw [PortKind.mk.injEq]
      exact ⟨startKind.trans stopKind.symm, types typed⟩
  obtain ⟨rfl, rfl⟩ := both
  refine ⟨startKind.symm, nearby, fun side => ?_⟩
  cases side with
  | outgoing => exact atStart
  | incoming => exact atStop

/-- An edge of linear values joins children of one node. -/
theorem Local.siblings {edge : Edge} {ty : Ty} (nearby : Local program kids edge (some (.value ty)))
    (kind : edge.kind = .value) (linear : ty.isLinear = true) :
    ∃ parent, ∀ direction, (edge.port direction).node ∈ kids parent := by
  obtain ⟨parent, sourceChild, targetChild⟩ := nearby
  rw [kind] at targetChild
  rcases targetChild with sibling | ⟨copyable, -⟩
  · refine ⟨parent, fun direction => ?_⟩
    cases direction with
    | outgoing => exact sourceChild
    | incoming => exact sibling
  · rw [Option.any_some, PortType.isLinear, linear] at copyable
    cases copyable

/-- Every edge that leaves a node joins ports as it should. -/
theorem empty_edgesReport_iff (agrees : program.AgreesOn kids) {node : Node}
    (live : program.graph.contains node = true) :
    (program.edgesReport node).Empty ↔ ∀ edge ∈ program.graph.edgesOf node .outgoing, Joined program kids edge := by
  rw [Report.Empty, edgesReport, agrees.graph.edges_eq live, Outcome.ok_bind]
  refine empty_forEach_iff.trans (forall_congr' fun edge => imp_congr_right fun mem => ?_)
  obtain ⟨link, found, -, same⟩ := agrees.graph.mem_edgesOf.1 mem
  have liveSource : program.graph.contains edge.source.node = true := by
    rw [same]
    exact agrees.graph.contains_end found .outgoing
  have liveTarget : program.graph.contains edge.target.node = true := by
    rw [same]
    exact agrees.graph.contains_end found .incoming
  rw [if_pos ((agrees.contains_eq _).trans liveTarget)]
  exact agrees.empty_edgeReport_iff liveSource liveTarget

theorem mem_both (direction : Direction) : direction ∈ Direction.both := by
  cases direction <;> decide

/-- Ports that have to have a single edge: typed inputs and linear outputs. -/
def NeedsOne (direction : Direction) (kind : PortKind) : Prop :=
  kind.kind.isTyped = true ∧
    (direction = .outgoing → kind.kind = .value ∧ kind.type.any PortType.isLinear = true)

theorem needsOne_incoming {kind : PortKind} (typed : kind.kind.isTyped = true) : NeedsOne .incoming kind :=
  ⟨typed, fun out => absurd out (by decide)⟩

theorem empty_linkReport_iff (agrees : program.AgreesOn kids) {node : Node} {op : Op} {direction : Direction}
    {offset : Nat} (found : program.ops.get? node = some op) :
    (program.linkReport node op direction offset).Empty ↔
      ∀ kind, op.portKind? direction offset = some kind → NeedsOne direction kind →
        (program.graph.idsAt ⟨node, direction, offset⟩).length = 1 := by
  rw [linkReport]
  cases known : op.portKind? direction offset with
  | none => exact iff_of_true rfl fun kind same => nomatch same
  | some kind =>
    simp only [Option.some.injEq, forall_eq', NeedsOne]
    cases typed : kind.kind.isTyped with
    | false => exact iff_of_true rfl fun held => nomatch held.1
    | true =>
      have has : program.graph.HasPort ⟨node, direction, offset⟩ := agrees.hasPort_of_portKind? found known
      rw [agrees.portEdges_eq has]
      simp only [Bool.not_true, Bool.false_eq_true, if_false, Outcome.ok_bind, agrees.graph.length_edgesAt, true_and]
      cases direction with
      | incoming =>
        simp only [reduceCtorEq, false_implies, true_implies]
        exact empty_ite_iff
      | outgoing =>
        simp only [true_implies]
        by_cases linear : kind.kind = .value ∧ kind.type.any PortType.isLinear = true
        · rw [if_pos linear]
          simp only [linear, true_and, true_implies]
          generalize (program.graph.idsAt ⟨node, .outgoing, offset⟩).length = count
          match count with
          | 0 => simp [Report.Empty, Report.single]
          | 1 => simp [Report.Empty, Report.clean]
          | count + 2 => simp [Report.Empty, Report.single]
        · rw [if_neg linear]
          exact iff_of_true rfl fun held => absurd held linear

/-- The ports of a node that need one edge have it. -/
theorem empty_linksReport_iff (agrees : program.AgreesOn kids) {node : Node} {op : Op}
    (found : program.ops.get? node = some op) :
    (program.linksReport node).Empty ↔ node ≠ program.root → ∀ direction (offset : Nat) kind,
      op.portKind? direction offset = some kind → NeedsOne direction kind →
        (program.graph.idsAt ⟨node, direction, offset⟩).length = 1 := by
  rw [linksReport]
  by_cases isRoot : node = program.root
  · rw [if_pos isRoot]
    exact iff_of_true rfl fun apart => absurd isRoot apart
  · rw [if_neg isRoot, Report.Empty, agrees.op_eq_ok_iff.2 found, Outcome.ok_bind]
    refine empty_forEach_iff.trans ?_
    constructor
    · intro each _ direction offset kind known needs
      have inner := each direction (mem_both direction)
      rw [Report.Empty, agrees.numPorts_eq found, Outcome.ok_bind, Nat.min_self] at inner
      have inside := (Op.portKind?_inside known).2
      exact (agrees.empty_linkReport_iff found).1
        (empty_forEach_iff.1 inner offset (List.mem_range.2 (by omega))) kind known needs
    · intro each direction _
      rw [Report.Empty, agrees.numPorts_eq found, Outcome.ok_bind, Nat.min_self]
      refine empty_forEach_iff.2 fun offset _ => (agrees.empty_linkReport_iff found).2 ?_
      exact each isRoot direction offset

/-! ### Single nodes -/

theorem empty_portReport (agrees : program.AgreesOn kids) {node : Node} {op : Op}
    (found : program.ops.get? node = some op) : (program.portReport node op).Empty := by
  rw [portReport, empty_forEach_iff]
  intro direction _
  rw [Report.Empty, agrees.numPorts_eq found, Outcome.ok_bind, if_pos rfl]
  rfl

theorem empty_parentReport_iff (agrees : program.AgreesOn kids) {node : Node} {op : Op}
    (live : program.graph.contains node = true) :
    (program.parentReport node op).Empty ↔ ∀ parent container, node ∈ kids parent →
      program.ops.get? parent = some container → container.childRules.allowed.isSuperset op.opTag = true := by
  rw [Report.Empty, parentReport, agrees.parent?_eq live, Outcome.ok_bind]
  cases above : program.hierarchy.parent? node with
  | none =>
    refine iff_of_true rfl fun parent _ isChild => ?_
    exact absurd isChild ((agrees.stores.parent?_eq_none_iff node).1 above parent)
  | some parent =>
    have isChild := (agrees.stores.parent_iff node parent).1 above
    obtain ⟨container, found⟩ := agrees.get?_of_contains (agrees.kids_live parent node isChild).2
    simp only [agrees.op_eq_ok_iff.2 found, Outcome.ok_bind]
    refine empty_ite_iff.trans ⟨fun held other op inOther foundOther => ?_, fun each => each parent container isChild found⟩
    rw [agrees.stores.parent_unique inOther isChild, found, Option.some.injEq] at foundOther
    exact foundOther ▸ held

/-- What is reported about the children of a node, in parts. -/
theorem empty_childrenReport_iff (agrees : program.AgreesOn kids) {node : Node} {op : Op}
    (live : program.graph.contains node = true) :
    (program.childrenReport node op).Empty ↔
      (kids node = [] → op.childRules.nonempty = false) ∧
      ∀ first rest, kids node = first :: rest → op.childRules.allowed ≠ .none →
        (program.firstChildReport node op first).Empty ∧ (program.secondChildReport node op rest.head?).Empty ∧
        (op.childRules.first = .input → (program.boundaryReport op (first :: rest)).Empty) ∧
        (op.childRules.acyclic = true → (program.acyclicReport node op).Empty) ∧
        (program.kindReport node op (first :: rest)).Empty := by
  cases children : kids node with
  | nil =>
    rw [Report.Empty, childrenReport, agrees.children_eq live, children, Outcome.ok_bind]
    simp only [true_implies, reduceCtorEq, false_implies, implies_true, and_true]
    cases op.childRules.nonempty <;> simp [Report.clean, Report.single]
  | cons first rest =>
    refine Iff.trans ?_ (and_iff_right fun none => absurd none (List.cons_ne_nil first rest)).symm
    refine Iff.trans ?_ ⟨fun held other others same => by cases same; exact held, fun each => each first rest rfl⟩
    have asked := (agrees.children_eq live).trans (congrArg Except.ok children)
    by_cases leaf : op.childRules.allowed = .none
    · rw [Report.Empty, childrenReport, asked, Outcome.ok_bind]
      simp [leaf, Report.clean]
    · rw [childrenReport_of_cons asked leaf]
      simp only [empty_also_iff, empty_when_iff, leaf, ne_eq, not_false_eq_true, true_implies]

theorem empty_typeReport_iff {registry : Registry} {node : Node} {op : Op} :
    (program.typeReport registry node op).Empty ↔ ∃ scope, program.scopeOf node = .ok scope ∧
      ∀ type ∈ portTypes op, checkPortType registry scope type = .ok () := by
  rw [Report.Empty, typeReport, Outcome.bind_eq_ok_iff]
  apply exists_congr
  intro scope
  apply and_congr_right
  intro _
  refine empty_forEach_iff.trans ?_
  simp only [empty_ofCheck_iff]

/-- What is reported about a node, in parts; it always has the ports of its operation. -/
theorem empty_nodeReport_iff (agrees : program.AgreesOn kids) {registry : Registry} {node : Node} {op : Op}
    (found : program.ops.get? node = some op) :
    (program.nodeReport registry node).Empty ↔ (program.parentReport node op).Empty ∧
      (program.childrenReport node op).Empty ∧ checkOp registry op = .ok () ∧
      (program.typeReport registry node op).Empty := by
  rw [nodeReport_of_op (agrees.op_eq_ok_iff.2 found)]
  simp only [empty_also_iff, empty_ofCheck_iff, agrees.empty_portReport found, true_and]

/-! ### Cycles -/

/-- A value or order edge leads from one child of a region to another one. -/
def Feeds (program : Program) (kids : Node → List Node) (region source target : Node) : Prop :=
  source ∈ kids region ∧ target ∈ kids region ∧ ∃ edge ∈ program.graph.edgesOf source .outgoing,
    (edge.kind = .value ∨ edge.kind = .order) ∧ edge.target.node = target

theorem exists_dependencies (agrees : program.AgreesOn kids) {region : Node}
    (live : program.graph.contains region = true) : ∃ pairs,
      program.dependencies region = .ok (.ofEdges pairs (kids region)) ∧
      ∀ source target, (source, target) ∈ pairs ↔ Feeds program kids region source target := by
  refine ⟨(kids region).flatMap fun child => (program.graph.edgesOf child .outgoing).filterMap fun edge =>
    if (edge.kind = .value ∨ edge.kind = .order) ∧ edge.target.node ∈ kids region then some (child, edge.target.node)
    else none, ?_, fun source target => ?_⟩
  · rw [dependencies, agrees.children_eq live, Outcome.ok_bind, List.flatMap_def]
    refine Outcome.bind_eq_ok_iff.2 ⟨_, Outcome.mapM_of_forall fun child isChild => ?_, rfl⟩
    rw [agrees.graph.edges_eq (agrees.kids_live region child isChild).1]
    rfl
  · rw [List.mem_flatMap, Feeds]
    constructor
    · rintro ⟨child, isChild, mem⟩
      obtain ⟨edge, leaves, same⟩ := List.mem_filterMap.1 mem
      split at same
      · rename_i held
        cases same
        exact ⟨isChild, held.2, edge, leaves, held.1, rfl⟩
      · cases same
    · rintro ⟨isChild, isTarget, edge, leaves, kind, rfl⟩
      exact ⟨source, isChild, List.mem_filterMap.2 ⟨edge, leaves, if_pos ⟨kind, isTarget⟩⟩⟩

/-- No child of the region depends on itself. -/
theorem empty_acyclicReport_iff (agrees : program.AgreesOn kids) {region : Node} {op : Op}
    (live : program.graph.contains region = true) :
    (program.acyclicReport region op).Empty ↔
      ¬ ∃ node, Relation.TransGen (Feeds program kids region) node node := by
  obtain ⟨pairs, found, related⟩ := agrees.exists_dependencies live
  have same : (fun source target => (source, target) ∈ pairs) = Feeds program kids region := by
    funext source target
    exact propext (related source target)
  rw [Report.Empty, acyclicReport, found, Outcome.ok_bind, ← same, ← DependencyGraph.hasCycle_ofEdges_iff]
  split
  · rename_i cycle
    exact iff_of_false (not_empty_single _ _) fun none => none cycle
  · rename_i none
    exact iff_of_true rfl none

/-! ### Control flow -/

/-- The exit at a node, if there is one, with the values that it takes. -/
def exitAt (program : Program) (node : Node) : List (Node × Row) :=
  match program.ops.get? node with
  | some (.exit outputs) => [(node, outputs)]
  | _ => []

theorem exits_eq (agrees : program.AgreesOn kids) {children : List Node}
    (live : ∀ child ∈ children, program.graph.contains child = true) :
    program.exits children = .ok (children.flatMap (exitAt program)) := by
  rw [exits, List.flatMap_def]
  refine Outcome.bind_eq_ok_iff.2 ⟨_, Outcome.mapM_of_forall fun child mem => ?_, rfl⟩
  obtain ⟨op, found⟩ := agrees.get?_of_contains (live child mem)
  rw [agrees.op_eq_ok_iff.2 found, Outcome.ok_bind, exitAt, found]
  cases op <;> rfl

/-- What is reported about a control-flow region, in parts. -/
theorem empty_controlReport_iff (agrees : program.AgreesOn kids) {node : Node} {inputs outputs : Row}
    {children : List Node} (live : ∀ child ∈ children, program.graph.contains child = true) :
    (program.controlReport node inputs outputs children).Empty ↔
      (∀ child ∈ children.take 1, (program.entryReport inputs child).Empty) ∧
      children.flatMap (exitAt program) ≠ [] ∧ (∀ exit ∈ children.flatMap (exitAt program), exit.2 = outputs) ∧
      ∀ child ∈ children, (program.blockReport child).Empty := by
  rw [controlReport_of_exits (agrees.exits_eq live), empty_also_iff, empty_also_iff, empty_also_iff, empty_forEach_iff,
    empty_forEach_iff, empty_forEach_iff, empty_when_iff]
  simp only [exitReport, empty_ite_iff, not_empty_single, List.isEmpty_iff, imp_false, ne_eq]

/-- The control flow edges of a port. -/
def controlEdgesAt (program : Program) (port : Port) : List Edge :=
  (program.graph.edgesAt port).filter fun edge => edge.kind == .controlFlow

/-- A variant of a block leads to one successor, which takes what the block gives if it is a block or an exit. -/
theorem empty_variantReport_iff (agrees : program.AgreesOn kids) {block : Node} {sumRows : List Row} {otherOutputs : Row}
    {index : Nat} (has : program.graph.HasPort (block.outputPort index)) :
    (program.variantReport block sumRows otherOutputs index).Empty ↔
      ∃ expected, Op.successorInput? sumRows otherOutputs index = some expected ∧
        (controlEdgesAt program (block.outputPort index)).length = 1 ∧
        ∀ edge ∈ controlEdgesAt program (block.outputPort index), ∀ op, program.ops.get? edge.target.node = some op →
          ∀ inputs, blockInputs? op = some inputs → inputs = expected := by
  rw [Report.Empty, variantReport, agrees.portEdges_eq has, Outcome.ok_bind]
  cases Op.successorInput? sumRows otherOutputs index with
  | none => simp [fail]
  | some expected =>
    simp only [Option.some.injEq, exists_eq_left']
    rw [← Report.Empty, empty_also_iff, empty_forEach_iff]
    apply and_congr
    · rw [← controlEdgesAt]
      generalize (controlEdgesAt program (block.outputPort index)).length = count
      rcases count with _ | _ | count <;> simp
    · refine forall_congr' fun edge => imp_congr_right fun mem => ?_
      obtain ⟨link, found, -, isEdge⟩ := agrees.graph.mem_edgesAt.1 (List.mem_of_mem_filter mem)
      have live : program.graph.contains edge.target.node = true := by
        rw [isEdge]
        exact agrees.graph.contains_end found .incoming
      obtain ⟨op, isOp⟩ := agrees.get?_of_contains live
      rw [Report.Empty, successorReport, agrees.op_eq_ok_iff.2 isOp, Outcome.ok_bind, isOp]
      simp only [Option.some.injEq, forall_eq']
      cases blockInputs? op with
      | none =>
        refine iff_of_true rfl fun inputs none => ?_
        cases none
      | some inputs =>
        simp only [Option.some.injEq, forall_eq']
        exact empty_ite_iff

/-! ### Validation -/

/-- Validation finds nothing exactly if the parts find nothing; then all nodes are in the tree under the root. -/
theorem empty_validate_iff (agrees : program.AgreesOn kids) (registry : Registry) (requirements : Bool) :
    (program.validate registry requirements).Empty ↔
      program.rootReport.Empty ∧ program.detachedReport.Empty ∧
        (∀ node, program.graph.contains node = true → (program.nodeReport registry node).Empty) ∧
        (∀ node, program.graph.contains node = true →
          (program.edgesReport node).Empty ∧ (program.linksReport node).Empty) ∧
        (requirements = true → program.requirementsReport.Empty) := by
  have inTree : ∀ {claim : Node → Prop}, program.detachedReport.Empty →
      ((∀ node ∈ program.hierarchy.descendants program.root, claim node) ↔
        ∀ node, program.graph.contains node = true → claim node) := by
    intro claim attached
    simp only [agrees.mem_tree (agrees.empty_detachedReport_iff.1 attached)]
  rw [validate_of_tree (agrees.descendants_eq agrees.root_live)]
  simp only [empty_also_iff, empty_forEach_iff, empty_when_iff, agrees.empty_integrityReport, true_and]
  constructor
  · rintro ⟨root, detached, nodes, edges, last⟩
    exact ⟨root, detached, (inTree detached).1 nodes, (inTree detached).1 edges, last⟩
  · rintro ⟨root, detached, nodes, edges, last⟩
    exact ⟨root, detached, (inTree detached).2 nodes, (inTree detached).2 edges, last⟩

/-! ### Accepted programs -/

theorem exists_input {op : Op} (first : OpTag.isSuperset .input op.opTag = true) : ∃ types, op = .input types := by
  cases op <;> first | exact ⟨_, rfl⟩ | cases first

theorem exists_output {op : Op} (second : OpTag.isSuperset .output op.opTag = true) : ∃ types, op = .output types := by
  cases op <;> first | exact ⟨_, rfl⟩ | cases second

section

variable {registry : Registry} {requirements : Bool} (agrees : program.AgreesOn kids)
  (accepted : (program.validate registry requirements).Empty)

include agrees accepted

theorem nodeReport_of_accepted {node : Node} {op : Op} (found : program.ops.get? node = some op) :
    (program.parentReport node op).Empty ∧ (program.childrenReport node op).Empty ∧ checkOp registry op = .ok () ∧
      (program.typeReport registry node op).Empty := by
  obtain ⟨-, -, nodes, -, -⟩ := (agrees.empty_validate_iff registry requirements).1 accepted
  exact (agrees.empty_nodeReport_iff found).1 (nodes node (agrees.contains_of_get? found))

/-- Children are of a class that their parent admits. -/
theorem allowed_of_accepted {parent child : Node} {container op : Op} (isChild : child ∈ kids parent)
    (isParent : program.ops.get? parent = some container) (found : program.ops.get? child = some op) :
    container.childRules.allowed.isSuperset op.opTag = true :=
  (agrees.empty_parentReport_iff (agrees.kids_live parent child isChild).1).1
    (agrees.nodeReport_of_accepted accepted found).1 parent container isChild isParent

/-- What has children admits some. -/
theorem isContainer_of_accepted {parent child : Node} {container : Op} (isChild : child ∈ kids parent)
    (isParent : program.ops.get? parent = some container) : container.isContainer = true := by
  obtain ⟨op, found⟩ := agrees.get?_of_contains (agrees.kids_live parent child isChild).1
  have allowed := agrees.allowed_of_accepted accepted isChild isParent found
  rw [Op.isContainer, bne_iff_ne]
  intro none
  rw [none] at allowed
  cases op <;> cases allowed

/-- The children of a dataflow region begin with an input and an output of its types. -/
theorem boundary_of_accepted {region : Node} {op : Op} {inner : Signature}
    (isRegion : program.ops.get? region = some op) (dataflow : op.childRules = .dataflow)
    (within : op.inner? = some inner) :
    ∃ input output rest, kids region = input :: output :: rest ∧
      program.ops.get? input = some (.input inner.input) ∧ program.ops.get? output = some (.output inner.output) := by
  obtain ⟨-, children, -, -⟩ := agrees.nodeReport_of_accepted accepted isRegion
  obtain ⟨nonempty, parts⟩ := (agrees.empty_childrenReport_iff (agrees.contains_of_get? isRegion)).1 children
  rw [dataflow] at nonempty parts
  have known : ∀ child ∈ kids region, ∃ held, program.ops.get? child = some held ∧ program.op child = .ok held := by
    intro child isChild
    obtain ⟨held, isHeld⟩ := agrees.get?_of_contains (agrees.kids_live region child isChild).1
    exact ⟨held, isHeld, agrees.op_eq_ok_iff.2 isHeld⟩
  match listed : kids region with
  | [] => cases nonempty listed
  | [input] =>
    obtain ⟨-, second, -⟩ := parts input [] listed OpTag.noConfusion
    rw [List.head?_nil, Report.Empty, secondChildReport, dataflow] at second
    cases second
  | input :: output :: rest =>
    obtain ⟨first, second, boundary, -, -⟩ := parts input (output :: rest) listed OpTag.noConfusion
    rw [listed] at known
    obtain ⟨held, isInput, asked⟩ := known input List.mem_cons_self
    obtain ⟨other, isOutput, askedToo⟩ := known output (List.mem_cons_of_mem input List.mem_cons_self)
    rw [Report.Empty, firstChildReport, asked, Outcome.ok_bind, dataflow] at first
    rw [List.head?_cons, Report.Empty, secondChildReport, askedToo, Outcome.ok_bind, dataflow] at second
    obtain ⟨types, rfl⟩ := exists_input (empty_ite_iff.1 first)
    obtain ⟨others, rfl⟩ := exists_output (empty_ite_iff.1 second)
    have boundary := boundary rfl
    rw [boundaryReport, within] at boundary
    obtain ⟨⟨inputs, outputs⟩, -⟩ := (empty_also_iff.1 boundary).imp_left empty_also_iff.1
    have atInput := empty_forEach_iff.1 inputs input List.mem_cons_self
    have atOutput := empty_forEach_iff.1 outputs output List.mem_cons_self
    rw [Report.Empty, inputReport, asked] at atInput
    rw [Report.Empty, outputReport, askedToo] at atOutput
    obtain rfl := empty_ite_iff.1 atInput
    obtain rfl := empty_ite_iff.1 atOutput
    exact ⟨input, output, rest, rfl, isInput, isOutput⟩

/-- Every edge joins ports as it should. -/
theorem joined_of_accepted {id : Nat} {link : Link} (recorded : program.graph.links.get? id = some link) :
    Joined program kids (link.edge id) := by
  obtain ⟨-, -, -, edges, -⟩ := (agrees.empty_validate_iff registry requirements).1 accepted
  have live := agrees.graph.contains_end recorded .outgoing
  refine (agrees.empty_edgesReport_iff live).1 (edges link.source live).1 (link.edge id) ?_
  exact agrees.graph.mem_edgesOf.2 ⟨link, recorded, rfl, rfl⟩

/-- What a value port carries, its edges carry as well, and so do the ports at their other ends. -/
theorem carried_of_accepted {port : Port} {ty : Ty} (known : program.kindAt? port = some ⟨.value, some (.value ty)⟩)
    {edge : Edge} (listed : edge ∈ program.graph.edgesAt port) :
    edge.kind = .value ∧ Local program kids edge (some (.value ty)) ∧
      ∀ side, program.kindAt? (edge.port side) = some ⟨.value, some (.value ty)⟩ := by
  obtain ⟨link, recorded, -, same⟩ := agrees.graph.mem_edgesAt.1 listed
  have joined : Joined program kids edge := by
    rw [same]
    exact agrees.joined_of_accepted accepted recorded
  have atPort := (agrees.graph.mem_edgesAt_iff.1 listed).2
  rw [← atPort] at known
  exact joined.carries known

/-- A port of a child that needs one edge has it. -/
theorem length_idsAt_of_accepted {parent : Node} {port : Port} {kind : PortKind} (isChild : port.node ∈ kids parent)
    (known : program.kindAt? port = some kind) (needs : NeedsOne port.direction kind) :
    (program.graph.idsAt port).length = 1 := by
  obtain ⟨-, -, -, edges, -⟩ := (agrees.empty_validate_iff registry requirements).1 accepted
  obtain ⟨op, found, isKind⟩ := kindAt?_eq_some_iff.1 known
  have notRoot : port.node ≠ program.root := fun same => agrees.root_top parent (same ▸ isChild)
  obtain ⟨lower, -⟩ := Op.portKind?_inside isKind
  have position : ((port.offset.toNat : Nat) : Int) = port.offset := Int.toNat_of_nonneg lower
  rw [← position] at isKind
  have links := (agrees.empty_linksReport_iff found).1 (edges port.node (agrees.contains_of_get? found)).2 notRoot
    port.direction port.offset.toNat kind isKind needs
  rwa [position] at links

end

end NestedFlow.Program.AgreesOn
