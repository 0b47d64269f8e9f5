import NestedFlow.Proofs.PortGraph.Growth

/-! Answers about consistent port graphs: questions about ports and edges always have one. -/

set_option autoImplicit false

namespace NestedFlow

/-- The port at one end of an edge. -/
def Edge.port (edge : Edge) : Direction → Port
  | .incoming => edge.target
  | .outgoing => edge.source

theorem Link.port_edge (link : Link) (id : Nat) (direction : Direction) :
    (link.edge id).port direction = link.port direction := by
  cases direction <;> rfl

namespace PortGraph

/-- The edges of a port, in the order in which they were attached. -/
def edgesAt (graph : PortGraph) (port : Port) : List Edge := (graph.idsAt port).filterMap graph.edge?

/-- The edges of the ports of a node on one side. -/
def edgesOf (graph : PortGraph) (node : Node) (direction : Direction) : List Edge :=
  (graph.portsOf node direction).flatten.filterMap graph.edge?

theorem mem_offsets {count : Nat} {offset : Int} :
    offset ∈ (List.range count).map Nat.cast ↔ 0 ≤ offset ∧ offset < count := by
  rw [List.mem_map]
  constructor
  · rintro ⟨position, inside, rfl⟩
    rw [List.mem_range] at inside
    omega
  · rintro ⟨lower, upper⟩
    exact ⟨offset.toNat, List.mem_range.2 (by omega), Int.toNat_of_nonneg lower⟩

/-- The edges of a node are those of its ports, one port after another. -/
theorem edgesOf_eq (graph : PortGraph) (node : Node) (direction : Direction) :
    graph.edgesOf node direction =
      ((List.range (graph.portsOf node direction).length).map Nat.cast).flatMap fun (offset : Int) =>
        graph.edgesAt ⟨node, direction, offset⟩ := by
  rw [edgesOf, List.filterMap_flatten, List.flatMap_def, List.map_map]
  congr 1
  apply List.ext_getElem
  · simp
  · intro offset inside _
    have bound : offset < (graph.portsOf node direction).length := by simpa using inside
    rw [List.getElem_map, List.getElem_map, List.getElem_range, Function.comp_apply, edgesAt]
    rw [idsAt_natCast, List.getElem?_eq_getElem bound, Option.getD_some]

theorem id_of_edge? {graph : PortGraph} {id : Nat} {edge : Edge} (found : graph.edge? id = some edge) : edge.id = id := by
  obtain ⟨link, -, rfl⟩ := Option.map_eq_some_iff.1 found
  rfl

theorem nodup_filterMap_edge? (graph : PortGraph) {ids : List Nat} (distinct : ids.Nodup) :
    (ids.filterMap graph.edge?).Nodup :=
  distinct.filterMap fun _ _ _ first second => (id_of_edge? first).symm.trans (id_of_edge? second)

theorem edgesAt_of_not_hasPort {graph : PortGraph} {port : Port} (lacks : ¬ graph.HasPort port) :
    graph.edgesAt port = [] := by
  have none : graph.idsAt port = [] := by
    rw [List.eq_nil_iff_forall_not_mem]
    exact fun id listed => lacks (hasPort_of_mem_idsAt listed)
  rw [edgesAt, none, List.filterMap_nil]

theorem edgesOf_eq_nil_iff {graph : PortGraph} {node : Node} {direction : Direction} :
    graph.edgesOf node direction = [] ↔ ∀ offset, graph.edgesAt ⟨node, direction, offset⟩ = [] := by
  rw [edgesOf_eq, List.flatMap_eq_nil_iff]
  constructor
  · intro none offset
    by_cases has : graph.HasPort ⟨node, direction, offset⟩
    · exact none offset (mem_offsets.2 has)
    · exact edgesAt_of_not_hasPort has
  · exact fun none offset _ => none offset

theorem mem_allEdges {graph : PortGraph} {edge : Edge} :
    edge ∈ graph.allEdges ↔ ∃ link, graph.links.get? edge.id = some link ∧ edge = link.edge edge.id := by
  rw [allEdges, List.mem_map]
  constructor
  · rintro ⟨⟨id, link⟩, mem, rfl⟩
    exact ⟨link, (Table.get?_eq_some_iff _ id link).2 mem, rfl⟩
  · rintro ⟨link, recorded, same⟩
    exact ⟨(edge.id, link), (Table.get?_eq_some_iff _ edge.id link).1 recorded, same.symm⟩

theorem direction_port {graph : PortGraph} {edge : Edge} (mem : edge ∈ graph.allEdges) (direction : Direction) :
    (edge.port direction).direction = direction := by
  obtain ⟨link, -, same⟩ := mem_allEdges.1 mem
  rw [same, Link.port_edge]
  rfl

namespace Consistent

variable {graph : PortGraph}

theorem recorded_of_mem_idsAt (consistent : graph.Consistent) {port : Port} {id : Nat} (listed : id ∈ graph.idsAt port) :
    ∃ link, graph.links.get? id = some link := by
  obtain ⟨link, found, -⟩ := (consistent.listed_iff id port).1 listed
  exact ⟨link, found⟩

theorem recorded_of_mem_flatten (consistent : graph.Consistent) {node : Node} {direction : Direction} {id : Nat}
    (listed : id ∈ (graph.portsOf node direction).flatten) : ∃ link, graph.links.get? id = some link := by
  obtain ⟨offset, mem⟩ := mem_flatten_portsOf.1 listed
  exact consistent.recorded_of_mem_idsAt mem

theorem mem_edgesAt (consistent : graph.Consistent) {port : Port} {edge : Edge} :
    edge ∈ graph.edgesAt port ↔
      ∃ link, graph.links.get? edge.id = some link ∧ link.port port.direction = port ∧ edge = link.edge edge.id := by
  rw [edgesAt, List.mem_filterMap]
  constructor
  · rintro ⟨id, listed, found⟩
    rw [edge?, Option.map_eq_some_iff] at found
    obtain ⟨link, recorded, rfl⟩ := found
    obtain ⟨other, same, atPort⟩ := (consistent.listed_iff id port).1 listed
    rw [recorded, Option.some.injEq] at same
    exact ⟨link, recorded, same ▸ atPort, rfl⟩
  · rintro ⟨link, recorded, atPort, same⟩
    refine ⟨edge.id, (consistent.listed_iff _ _).2 ⟨link, recorded, atPort⟩, ?_⟩
    rw [edge?, recorded, Option.map_some, ← same]

theorem mem_edgesOf (consistent : graph.Consistent) {node : Node} {direction : Direction} {edge : Edge} :
    edge ∈ graph.edgesOf node direction ↔
      ∃ link, graph.links.get? edge.id = some link ∧ link.node direction = node ∧ edge = link.edge edge.id := by
  rw [edgesOf, List.mem_filterMap]
  constructor
  · rintro ⟨id, listed, found⟩
    rw [edge?, Option.map_eq_some_iff] at found
    obtain ⟨link, recorded, rfl⟩ := found
    obtain ⟨offset, atPort⟩ := mem_flatten_portsOf.1 listed
    obtain ⟨other, same, isPort⟩ := (consistent.listed_iff id _).1 atPort
    rw [recorded, Option.some.injEq] at same
    refine ⟨link, recorded, ?_, rfl⟩
    rw [same]
    exact congrArg Port.node isPort
  · rintro ⟨link, recorded, rfl, same⟩
    have listed := consistent.mem_idsAt recorded direction
    refine ⟨edge.id, mem_flatten_portsOf.2 ⟨(link.offset direction).toNat, ?_⟩, ?_⟩
    · have lower : 0 ≤ link.offset direction := (hasPort_of_mem_idsAt listed).1
      rwa [Int.toNat_of_nonneg lower]
    · rw [edge?, recorded, Option.map_some, ← same]

/-- The edges of a port are those that end there. -/
theorem mem_edgesAt_iff (consistent : graph.Consistent) {port : Port} {edge : Edge} :
    edge ∈ graph.edgesAt port ↔ edge ∈ graph.allEdges ∧ edge.port port.direction = port := by
  rw [consistent.mem_edgesAt, mem_allEdges]
  constructor
  · rintro ⟨link, recorded, atPort, same⟩
    exact ⟨⟨link, recorded, same⟩, by rw [same, Link.port_edge, atPort]⟩
  · rintro ⟨⟨link, recorded, same⟩, atPort⟩
    rw [same, Link.port_edge] at atPort
    exact ⟨link, recorded, atPort, same⟩

theorem mem_edgesOf_iff (consistent : graph.Consistent) {node : Node} {direction : Direction} {edge : Edge} :
    edge ∈ graph.edgesOf node direction ↔ edge ∈ graph.allEdges ∧ (edge.port direction).node = node := by
  rw [consistent.mem_edgesOf, mem_allEdges]
  constructor
  · rintro ⟨link, recorded, atNode, same⟩
    exact ⟨⟨link, recorded, same⟩, by rw [same, Link.port_edge, Link.port_node, atNode]⟩
  · rintro ⟨⟨link, recorded, same⟩, atNode⟩
    rw [same, Link.port_edge, Link.port_node] at atNode
    exact ⟨link, recorded, atNode, same⟩

theorem length_edgesAt (consistent : graph.Consistent) (port : Port) :
    (graph.edgesAt port).length = (graph.idsAt port).length := by
  rw [edgesAt]
  have each : ∀ id ∈ graph.idsAt port, (graph.edge? id).isSome = true := by
    intro id mem
    obtain ⟨link, found⟩ := consistent.recorded_of_mem_idsAt mem
    rw [edge?, found]
    rfl
  generalize graph.idsAt port = ids at each
  induction ids with
  | nil => rfl
  | cons id rest ih =>
    obtain ⟨edge, found⟩ := Option.isSome_iff_exists.1 (each id List.mem_cons_self)
    rw [List.filterMap_cons_some found, List.length_cons, List.length_cons,
      ih fun other mem => each other (List.mem_cons_of_mem _ mem)]

theorem portEdges_eq (consistent : graph.Consistent) {port : Port} (has : graph.HasPort port) :
    graph.portEdges port = .ok (graph.edgesAt port) := by
  obtain ⟨slot, found⟩ := contains_iff.1 (contains_of_hasPort has)
  have ids : ((slot.ports port.direction)[port.offset.toNat]?).getD [] = graph.idsAt port := by
    rw [idsAt, if_neg (Int.not_lt.2 has.1), portsOf_of_slot? found]
  rw [portEdges, checkPort_eq_ok_iff.2 has, Outcome.ok_bind, slot_of_slot? found, Outcome.ok_bind, ids,
    mapM_edgeAt fun id mem => consistent.recorded_of_mem_idsAt mem]
  rfl

/-- A port is linked to the far ends of its edges. -/
theorem linkedPorts_eq (consistent : graph.Consistent) {port : Port} (has : graph.HasPort port) :
    graph.linkedPorts port = .ok ((graph.edgesAt port).map fun edge => edge.port port.direction.reverse) := by
  rw [linkedPorts, consistent.portEdges_eq has, Outcome.ok_bind]
  cases port.direction <;> rfl

/-- An edge that is added comes last at its two ports. -/
theorem edgesAt_linked (consistent : graph.Consistent) {source target : Port} (kind : EdgeKind)
    (out : source.direction = .outgoing) (into : target.direction = .incoming) (hasSource : graph.HasPort source)
    (hasTarget : graph.HasPort target) (port : Port) :
    (graph.linked source target kind).edgesAt port =
      if port = source ∨ port = target then graph.edgesAt port ++ [⟨graph.nextEdge, source, target, kind⟩]
      else graph.edgesAt port := by
  have apart := ne_of_sides out into
  have record : ∀ id, (graph.linked source target kind).edge? id =
      if id = graph.nextEdge then some ⟨graph.nextEdge, source, target, kind⟩ else graph.edge? id := by
    intro id
    change ((graph.links.insert graph.nextEdge
      ⟨source.node, source.offset, target.node, target.offset, kind⟩).get? id).map _ = _
    rw [Table.get?_insert_eq]
    split
    · rename_i same
      obtain ⟨_, _, _⟩ := source
      obtain ⟨_, _, _⟩ := target
      cases out
      cases into
      rw [same]
      rfl
    · rfl
  -- what was listed before is older than the new edge
  have old : (graph.idsAt port).filterMap (graph.linked source target kind).edge? = graph.edgesAt port := by
    apply List.filterMap_congr
    intro id listed
    obtain ⟨link, found⟩ := consistent.recorded_of_mem_idsAt listed
    rw [record, if_neg (Nat.ne_of_lt (consistent.fresh id link found))]
  rw [edgesAt, idsAt_linked kind apart hasSource hasTarget]
  split
  · rw [List.filterMap_append, old]
    simp [record]
  · exact old

theorem edges_eq (consistent : graph.Consistent) {node : Node} (live : graph.contains node = true)
    (direction : Direction) : graph.edges node (some direction) none = .ok (graph.edgesOf node direction) := by
  obtain ⟨slot, found⟩ := contains_iff.1 live
  rw [edges, slot_of_slot? found, Outcome.ok_bind]
  simp only [Option.all_none, List.filter_true]
  rw [← portsOf_of_slot? found, mapM_edgeAt fun id mem => consistent.recorded_of_mem_flatten mem]
  rfl

/-- All edges at a node, on either side. -/
theorem edges_both_eq (consistent : graph.Consistent) {node : Node} (live : graph.contains node = true) :
    graph.edges node none none = .ok (graph.edgesOf node .incoming ++ graph.edgesOf node .outgoing) := by
  obtain ⟨slot, found⟩ := contains_iff.1 live
  have ids : slot.edgeIds = (graph.portsOf node .incoming).flatten ++ (graph.portsOf node .outgoing).flatten := by
    rw [portsOf_of_slot? found, portsOf_of_slot? found]
    rfl
  rw [edges, slot_of_slot? found, Outcome.ok_bind]
  simp only [Option.all_none, List.filter_true, ids]
  rw [mapM_edgeAt]
  · rw [edgesOf, edgesOf, ← List.filterMap_append]
    rfl
  · intro id mem
    rcases List.mem_append.1 mem with listed | listed <;> exact consistent.recorded_of_mem_flatten listed

end Consistent

end PortGraph

end NestedFlow
