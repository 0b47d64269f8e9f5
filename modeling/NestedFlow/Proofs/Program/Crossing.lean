import NestedFlow.Program.Subgraph
import NestedFlow.Proofs.Program.Accepted
import NestedFlow.Proofs.Program.Wired
import NestedFlow.Proofs.Reachability

/-! Ports at which edges cross from a set of nodes to the outside, and the checks of the subgraph with these ports as
its boundary, check by check.
-/

set_option autoImplicit false

namespace NestedFlow.Program

variable {program : Program} {kids : Node → List Node} {nodes : List Node}

/-! ### What is asked of a set of nodes -/

/-- An edge at the port leads to a node outside. -/
def LinkedOutside (program : Program) (nodes : List Node) (port : Port) : Prop :=
  ∃ edge ∈ program.graph.allEdges, edge.port port.direction = port ∧
    (edge.port port.direction.reverse).node ∉ nodes

def IsValuePort (program : Program) (port : Port) : Prop :=
  ∃ ty, program.portKind? port = .ok (some ⟨.value, some (.value ty)⟩)

/-- A value or order edge leads from one child of a region to another one. -/
def Precedes (program : Program) (region source target : Node) : Prop :=
  program.parent? source = .ok (some region) ∧ program.parent? target = .ok (some region) ∧
    ∃ edge ∈ program.graph.allEdges, (edge.kind = .value ∨ edge.kind = .order) ∧ edge.source.node = source ∧
      edge.target.node = target

/-- No path along the value and order edges between the children of a region leaves the set and comes back. -/
def Convex (program : Program) (region : Node) (nodes : List Node) : Prop :=
  ∀ source ∈ nodes, ∀ between, between ∉ nodes → ∀ target ∈ nodes,
    Relation.TransGen (program.Precedes region) source between →
      ¬ Relation.TransGen (program.Precedes region) between target

/-- A convex set of siblings with no order edge across its boundary. -/
structure Separable (program : Program) (nodes : List Node) : Prop where
  nonempty : nodes ≠ []
  within : ∃ region, (∀ node ∈ nodes, program.parent? node = .ok (some region)) ∧ program.Convex region nodes
  unordered : ∀ edge ∈ program.graph.allEdges, edge.kind = .order →
    (edge.source.node ∈ nodes ↔ edge.target.node ∈ nodes)

/-! ### The ports that cross -/

/-- The ports of a node in one direction, by their offsets. -/
def portList (program : Program) (direction : Direction) (node : Node) : List Port :=
  (List.range (program.graph.portsOf node direction).length).map fun (offset : Nat) => ⟨node, direction, offset⟩

/-- The ports of a node, except static ones, with edges to nodes outside. -/
def crossingPorts (program : Program) (nodes : List Node) (direction : Direction) (node : Node) : List Port :=
  (program.portList direction node).filter fun port =>
    if (program.kindAt? port).map PortKind.kind = some .static then false
    else ((program.graph.edgesAt port).map fun edge => edge.port port.direction.reverse).any fun other =>
      decide (other.node ∉ nodes)

/-- The subgraph of some nodes with the ports that cross as its boundary. -/
def cutOut (program : Program) (nodes : List Node) : Subgraph where
  nodes := nodes
  inputs := (nodes.flatMap (program.crossingPorts nodes .incoming)).map fun port => [port]
  outputs := nodes.flatMap (program.crossingPorts nodes .outgoing)

theorem mem_portList {direction : Direction} {node : Node} {port : Port} :
    port ∈ program.portList direction node ↔
      port.node = node ∧ port.direction = direction ∧ program.graph.HasPort port := by
  rw [portList, List.mem_map]
  constructor
  · rintro ⟨offset, inside, rfl⟩
    rw [List.mem_range] at inside
    exact ⟨rfl, rfl, by dsimp only; omega, by dsimp only; omega⟩
  · rintro ⟨rfl, rfl, lower, upper⟩
    refine ⟨port.offset.toNat, List.mem_range.2 (by omega), ?_⟩
    cases port
    simp_all

@[simp] theorem nodes_cutOut : (program.cutOut nodes).nodes = nodes := rfl

@[simp] theorem inputs_cutOut : (program.cutOut nodes).inputs =
    (nodes.flatMap (program.crossingPorts nodes .incoming)).map fun port => [port] := rfl

@[simp] theorem outputs_cutOut :
    (program.cutOut nodes).outputs = nodes.flatMap (program.crossingPorts nodes .outgoing) := rfl

@[simp] theorem flatten_inputs_cutOut :
    (program.cutOut nodes).inputs.flatten = nodes.flatMap (program.crossingPorts nodes .incoming) := by
  rw [cutOut, ← List.flatMap_def]
  exact List.flatMap_singleton' _

namespace AgreesOn

theorem kindOf_eq (agrees : program.AgreesOn kids) {port : Port} (live : program.graph.contains port.node = true) :
    program.portKind? port = .ok (program.kindAt? port) := by
  obtain ⟨op, found⟩ := agrees.get?_of_contains live
  rw [agrees.portKind?_eq found, kindAt?_of_get? found]

theorem edgeKind?_eq (agrees : program.AgreesOn kids) {port : Port} (live : program.graph.contains port.node = true) :
    program.edgeKind? port = .ok ((program.kindAt? port).map PortKind.kind) := by
  rw [edgeKind?, agrees.kindOf_eq live]
  rfl

theorem isValuePort_iff (agrees : program.AgreesOn kids) {port : Port} :
    program.IsValuePort port ↔ ∃ ty, program.kindAt? port = some ⟨.value, some (.value ty)⟩ := by
  simp only [IsValuePort, agrees.portKind?_eq_ok_some_iff]

theorem crossing_eq (agrees : program.AgreesOn kids) {node : Node} (live : program.graph.contains node = true)
    (direction : Direction) :
    program.crossing nodes node direction = .ok (program.crossingPorts nodes direction node) := by
  rw [crossing, PortGraph.ports, PortGraph.numPorts_of_contains live]
  refine Outcome.filterM_of_forall fun port mem => ?_
  obtain ⟨rfl, -, has⟩ := mem_portList.1 mem
  rw [agrees.edgeKind?_eq live, Outcome.ok_bind]
  split
  · rfl
  · rw [agrees.linkedPorts_eq has]
    rfl

/-- The subgraph of some nodes is the one that they cut out, if that passes the checks. -/
theorem subgraphOf_eq (agrees : program.AgreesOn kids) (live : ∀ node ∈ nodes, program.graph.contains node = true) :
    program.subgraphOf nodes = program.checkedSubgraph (program.cutOut nodes) := by
  have ports : nodes.mapM (fun node => do
      let incoming ← program.crossing nodes node .incoming
      let outgoing ← program.crossing nodes node .outgoing
      pure (incoming, outgoing)) = .ok (nodes.map fun node =>
        (program.crossingPorts nodes .incoming node, program.crossingPorts nodes .outgoing node)) := by
    apply Outcome.mapM_of_forall
    intro node mem
    rw [agrees.crossing_eq (live node mem), agrees.crossing_eq (live node mem)]
    rfl
  rw [subgraphOf, ports, Outcome.ok_bind]
  simp only [cutOut, List.flatMap_map]

/-- A port crosses if it is linked outside and not static. -/
theorem mem_crossingPorts (agrees : program.AgreesOn kids) {direction : Direction} {node : Node} {port : Port} :
    port ∈ program.crossingPorts nodes direction node ↔ port.node = node ∧ port.direction = direction ∧
      program.LinkedOutside nodes port ∧ (program.kindAt? port).map PortKind.kind ≠ some .static := by
  have outside : (((program.graph.edgesAt port).map fun edge => edge.port port.direction.reverse).any fun other =>
      decide (other.node ∉ nodes)) = true ↔ program.LinkedOutside nodes port := by
    simp only [List.any_map, List.any_eq_true, Function.comp_apply, decide_eq_true_eq, agrees.graph.mem_edgesAt_iff,
      and_assoc, LinkedOutside]
  have exists_port : program.LinkedOutside nodes port → program.graph.HasPort port := by
    rintro ⟨edge, mem, atPort, -⟩
    by_contra lacks
    have listed := agrees.graph.mem_edgesAt_iff.2 ⟨mem, atPort⟩
    rw [PortGraph.edgesAt_of_not_hasPort lacks] at listed
    cases listed
  rw [crossingPorts, List.mem_filter, mem_portList]
  split
  · rename_i static
    simp [static]
  · rename_i moving
    rw [outside]
    constructor
    · rintro ⟨⟨atNode, side, -⟩, linked⟩
      exact ⟨atNode, side, linked, moving⟩
    · rintro ⟨atNode, side, linked, -⟩
      exact ⟨⟨atNode, side, exists_port linked⟩, linked⟩

theorem mem_flatMap_crossingPorts (agrees : program.AgreesOn kids) {direction : Direction} {port : Port} :
    port ∈ nodes.flatMap (program.crossingPorts nodes direction) ↔ port.node ∈ nodes ∧ port.direction = direction ∧
      program.LinkedOutside nodes port ∧ (program.kindAt? port).map PortKind.kind ≠ some .static := by
  simp only [List.mem_flatMap, agrees.mem_crossingPorts]
  constructor
  · rintro ⟨node, mem, rfl, crosses⟩
    exact ⟨mem, crosses⟩
  · rintro ⟨mem, crosses⟩
    exact ⟨port.node, mem, rfl, crosses⟩

/-! ### Checks -/

theorem checkSiblings_eq_ok_iff (agrees : program.AgreesOn kids)
    (live : ∀ node ∈ nodes, program.graph.contains node = true) :
    program.checkSiblings nodes = .ok () ↔
      nodes ≠ [] ∧ ∃ region, ∀ node ∈ nodes, program.parent? node = .ok (some region) := by
  cases nodes with
  | nil => simp [checkSiblings, fail]
  | cons first rest =>
    have known : ∀ node ∈ first :: rest, program.parent? node = .ok (program.hierarchy.parent? node) :=
      fun node mem => agrees.parent?_eq (live node mem)
    have stored : (∃ region, ∀ node ∈ first :: rest, program.parent? node = .ok (some region)) ↔
        ∃ region, ∀ node ∈ first :: rest, program.hierarchy.parent? node = some region := by
      refine exists_congr fun region => forall₂_congr fun node mem => ?_
      rw [known node mem, Except.ok.injEq]
    have head : ((first :: rest).map program.hierarchy.parent?).head? = some (program.hierarchy.parent? first) := rfl
    rw [checkSiblings, Outcome.mapM_of_forall known, Outcome.ok_bind, stored, head]
    simp only [List.any_eq_true, decide_eq_true_eq]
    -- all have a parent, and it is that of the first
    split
    · rename_i parentless
      obtain ⟨node, mem, none⟩ := List.mem_map.1 parentless
      refine iff_of_false (by simp [failAt]) ?_
      rintro ⟨-, region, all⟩
      rw [all node mem] at none
      cases none
    · rename_i attached
      split
      · rename_i differ
        obtain ⟨parent, mem, apart⟩ := differ
        obtain ⟨node, listed, rfl⟩ := List.mem_map.1 mem
        refine iff_of_false (by simp [failAt]) ?_
        rintro ⟨-, region, all⟩
        rw [all first List.mem_cons_self, all node listed] at apart
        exact apart rfl
      · rename_i same
        refine iff_of_true rfl ⟨List.cons_ne_nil first rest, ?_⟩
        cases above : program.hierarchy.parent? first with
        | none => exact absurd (List.mem_map.2 ⟨first, List.mem_cons_self, above⟩) attached
        | some region =>
          refine ⟨region, fun node mem => ?_⟩
          by_contra apart
          refine same ⟨_, List.mem_map_of_mem mem, fun equal => apart ?_⟩
          rw [← Option.some.inj equal, above]

theorem checkNoOrder_eq_ok_iff (agrees : program.AgreesOn kids) {port : Port}
    (live : program.graph.contains port.node = true) :
    program.checkNoOrder port = .ok () ↔ (program.kindAt? port).map PortKind.kind ≠ some .order := by
  rw [checkNoOrder, agrees.edgeKind?_eq live, Outcome.ok_bind]
  split <;> simp_all [failAt]

theorem checkIncoming_eq_ok_iff (agrees : program.AgreesOn kids) {port : Port} (has : program.graph.HasPort port) :
    program.checkIncoming nodes port = .ok () ↔ port.direction = .incoming ∧ port.node ∈ nodes ∧
      ∀ edge ∈ program.graph.edgesAt port, (edge.port port.direction.reverse).node ∉ nodes := by
  rw [checkIncoming]
  split
  · rename_i foreign
    refine iff_of_false (by simp [failAt]) ?_
    rintro ⟨side, mem, -⟩
    exact foreign.elim (· side) (· mem)
  · rename_i own
    rw [not_or, not_not, not_not] at own
    rw [agrees.linkedPorts_eq has, Outcome.ok_bind]
    simp only [own, true_and, List.any_map, List.any_eq_true, Function.comp_apply, decide_eq_true_eq]
    split
    · rename_i fed
      obtain ⟨edge, mem, inside⟩ := fed
      exact iff_of_false (by simp [failAt]) fun outside => outside edge mem inside
    · rename_i unfed
      exact iff_of_true rfl fun edge mem inside => unfed ⟨edge, mem, inside⟩

omit kids in
theorem valueType_eq_ok_iff {port : Port} {ty : Ty} :
    program.valueType port = .ok ty ↔ program.portKind? port = .ok (some ⟨.value, some (.value ty)⟩) := by
  rw [valueType]
  cases asked : program.portKind? port with
  | error error => simp
  | ok kind =>
    rw [Outcome.ok_bind]
    split
    · simp
    · rename_i other
      refine iff_of_false (by simp [failAt]) fun same => ?_
      rw [Except.ok.injEq] at same
      exact other ty same

omit kids in
/-- An input port by itself is an input of a subgraph if it is a value port that nothing inside feeds. -/
theorem checkGroup_single_iff {port : Port} :
    program.checkGroup nodes [port] = .ok () ↔ program.checkIncoming nodes port = .ok () ∧ program.IsValuePort port := by
  have single : program.checkGroup nodes [port] = (do
      [port].forM (program.checkIncoming nodes)
      let _ ← program.valueType port
      pure ()) := by
    rw [checkGroup]
    simp only [List.mapM_nil, List.isEmpty_nil]
    rfl
  have typed : (do let _ ← program.valueType port; pure () : Outcome Unit) = .ok () ↔ program.IsValuePort port := by
    simp only [Outcome.bind_eq_ok_iff, Outcome.pure_eq, valueType_eq_ok_iff, and_true, IsValuePort]
  rw [single, Outcome.andThen_eq_ok_iff, Outcome.forM_eq_ok_iff, typed]
  simp

omit kids in
theorem checkOutgoing_eq_ok_iff {port : Port} :
    checkOutgoing nodes port = .ok () ↔ port.direction = .outgoing ∧ port.node ∈ nodes := by
  rw [checkOutgoing]
  split
  · rename_i foreign
    refine iff_of_false (by simp [failAt]) ?_
    rintro ⟨side, mem⟩
    exact foreign.elim (· side) (· mem)
  · rename_i own
    rw [not_or, not_not, not_not] at own
    exact iff_of_true rfl own

omit kids in
/-- A boundary passes as a whole if its ports and groups pass one by one, and no input port is listed twice. -/
theorem checkBoundary_eq_ok_iff {subgraph : Subgraph} :
    program.checkBoundary subgraph = .ok () ↔ program.checkSiblings subgraph.nodes = .ok () ∧
      (∀ port ∈ subgraph.inputs.flatten ++ subgraph.outputs, program.checkNoOrder port = .ok ()) ∧
      (∀ group ∈ subgraph.inputs, program.checkGroup subgraph.nodes group = .ok ()) ∧
      subgraph.inputs.flatten.Nodup ∧ ∀ port ∈ subgraph.outputs, checkOutgoing subgraph.nodes port = .ok () := by
  rw [checkBoundary]
  simp only [Outcome.andThen_eq_ok_iff, Outcome.forM_eq_ok_iff]
  split
  · rename_i unique
    simp only [Outcome.forM_eq_ok_iff, unique, true_and]
  · rename_i repeated
    simp [repeated, fail]

omit kids in
theorem checkedSubgraph_eq_ok_iff {subgraph built : Subgraph} :
    program.checkedSubgraph subgraph = .ok built ↔ built = subgraph ∧ program.checkBoundary subgraph = .ok () ∧
      program.checkConvex subgraph.nodes = .ok () := by
  rw [checkedSubgraph]
  simp only [Outcome.bind_eq_ok_iff, Outcome.pure_eq, Except.ok.injEq]
  constructor
  · rintro ⟨_, clean, _, convex, rfl⟩
    exact ⟨rfl, clean, convex⟩
  · rintro ⟨rfl, clean, convex⟩
    exact ⟨(), clean, (), convex, rfl⟩

theorem precedes_iff (agrees : program.AgreesOn kids) {region source target : Node} :
    program.Precedes region source target ↔ Feeds program kids region source target := by
  simp only [Precedes, Feeds, agrees.parent?_eq_ok_some_iff, agrees.graph.mem_edgesOf_iff]
  constructor
  · rintro ⟨isChild, isTarget, edge, mem, kind, here, there⟩
    exact ⟨isChild, isTarget, edge, ⟨mem, here⟩, kind, there⟩
  · rintro ⟨isChild, isTarget, edge, ⟨mem, here⟩, kind, there⟩
    exact ⟨isChild, isTarget, edge, mem, kind, here, there⟩

omit kids in
/-- A path that ends outside a set leaves it with one of its steps. -/
theorem exists_exit {step : Node → Node → Prop} {source between : Node}
    (path : Relation.ReflTransGen step source between) (inside : source ∈ nodes) (outside : between ∉ nodes) :
    ∃ last ∈ nodes, ∃ next, next ∉ nodes ∧ step last next ∧ Relation.ReflTransGen step next between := by
  induction path using Relation.ReflTransGen.head_induction_on with
  | refl => exact absurd inside outside
  | @head current next first further ih =>
    by_cases still : next ∈ nodes
    · exact ih still
    · exact ⟨current, inside, next, still, first, further⟩

/-- A search from the nodes outside that the set feeds finds every path that leaves and comes back. -/
theorem checkConvex_eq_ok_iff (agrees : program.AgreesOn kids) {region : Node} (nonempty : nodes ≠ [])
    (within : ∀ node ∈ nodes, program.parent? node = .ok (some region)) :
    program.checkConvex nodes = .ok () ↔ program.Convex region nodes := by
  cases nodes with
  | nil => exact absurd rfl nonempty
  | cons first rest =>
    have above := within first List.mem_cons_self
    obtain ⟨pairs, found, related⟩ := agrees.exists_dependencies
      (agrees.kids_live region first (agrees.parent?_eq_ok_some_iff.1 above)).2
    have feeds : (DependencyGraph.ofEdges pairs (kids region)).successors.Feeds = program.Precedes region := by
      funext source target
      exact propext (DependencyGraph.feeds_ofEdges.trans ((related source target).trans agrees.precedes_iff.symm))
    -- the search starts at the nodes outside that the set feeds
    have escapes : ∀ start, start ∈ ((first :: rest).flatMap
        (DependencyGraph.ofEdges pairs (kids region)).successors.targets).filter (fun node => node ∉ first :: rest) ↔
          start ∉ first :: rest ∧ ∃ source ∈ first :: rest, program.Precedes region source start := by
      intro start
      rw [← feeds, List.mem_filter, List.mem_flatMap, decide_eq_true_eq, and_comm]
      rfl
    rw [checkConvex, above, Outcome.ok_bind]
    dsimp only
    rw [found, Outcome.ok_bind]
    split
    · rename_i returns
      rw [List.any_eq_true] at returns
      obtain ⟨target, reached, isTarget⟩ := returns
      obtain ⟨start, left, path⟩ := Successors.mem_reachable.1 reached
      obtain ⟨outside, source, isSource, exits⟩ := (escapes start).1 left
      rw [feeds] at path
      exact iff_of_false (by simp [failAt]) fun convex =>
        convex source isSource start outside target (of_decide_eq_true isTarget) (.single exits) path
    · rename_i stays
      refine iff_of_true rfl fun source isSource between outside target isTarget path back => stays ?_
      -- where the path leaves the set for the first time, a search starts
      obtain ⟨last, isLast, next, left, exits, further⟩ := exists_exit path.to_reflTransGen isSource outside
      rw [List.any_eq_true]
      refine ⟨target, Successors.mem_reachable.2 ⟨next, (escapes next).2 ⟨left, last, isLast, exits⟩, ?_⟩,
        decide_eq_true isTarget⟩
      rw [feeds]
      exact .trans_right further back

end AgreesOn

end NestedFlow.Program
