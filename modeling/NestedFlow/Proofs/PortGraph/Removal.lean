import NestedFlow.Proofs.Change
import NestedFlow.Proofs.PortGraph.Consistent

/-! Removing edges and nodes from a consistent port graph.

Taking an edge away from the ports at its recorded ends is the same as filtering it out of every list, which is how
several removals are put together.
-/

set_option autoImplicit false

namespace NestedFlow

theorem modify_eq_map {α : Type} {items : List α} {position : Nat} {change each : α → α}
    (here : ∀ item, items[position]? = some item → change item = each item)
    (elsewhere : ∀ (index : Nat) item, items[index]? = some item → index ≠ position → each item = item) :
    items.modify position change = items.map each := by
  apply List.ext_getElem?
  intro index
  rw [List.getElem?_modify, List.getElem?_map]
  cases get : items[index]? with
  | none => rfl
  | some item =>
    by_cases same : position = index
    · subst same
      simp [here item get]
    · simp [same, elsewhere index item get fun reverse => same reverse.symm]

/-- A list of edges without some of them. -/
def excluding (ids listed : List Nat) : List Nat := listed.filter fun id => decide (id ∉ ids)

theorem mem_excluding {ids listed : List Nat} {id : Nat} : id ∈ excluding ids listed ↔ id ∈ listed ∧ id ∉ ids := by
  simp [excluding]

theorem excluding_excluding (first second listed : List Nat) :
    excluding second (excluding first listed) = excluding (first ++ second) listed := by
  rw [excluding, excluding, excluding, List.filter_filter]
  congr 1
  funext id
  simp [Bool.and_comm]

@[simp] theorem excluding_nil (listed : List Nat) : excluding [] listed = listed := by
  simp [excluding]

theorem excluding_of_not_mem {id : Nat} {listed : List Nat} (absent : id ∉ listed) : excluding [id] listed = listed := by
  rw [excluding, List.filter_eq_self]
  intro other mem
  exact decide_eq_true fun same => absent (List.mem_singleton.1 same ▸ mem)

theorem erase_eq_excluding {listed : List Nat} (distinct : listed.Nodup) (id : Nat) :
    listed.erase id = excluding [id] listed := by
  rw [distinct.erase_eq_filter, excluding]
  congr 1
  funext other
  by_cases same : other = id <;> simp [same]

namespace Slot

/-- The slot without some edges at its ports on one side. -/
def without (slot : Slot) (direction : Direction) (ids : List Nat) : Slot :=
  slot.withPorts direction ((slot.ports direction).map (excluding ids))

theorem ports_without (slot : Slot) (direction other : Direction) (ids : List Nat) :
    (slot.without direction ids).ports other =
      if other = direction then (slot.ports other).map (excluding ids) else slot.ports other := by
  cases direction <;> cases other <;> rfl

@[simp] theorem live_without (slot : Slot) (direction : Direction) (ids : List Nat) :
    (slot.without direction ids).live = slot.live := by
  cases direction <;> rfl

@[simp] theorem generation_without (slot : Slot) (direction : Direction) (ids : List Nat) :
    (slot.without direction ids).generation = slot.generation := by
  cases direction <;> rfl

theorem ext_ports {first second : Slot} (generation : first.generation = second.generation)
    (live : first.live = second.live) (ports : ∀ direction, first.ports direction = second.ports direction) :
    first = second := by
  cases first
  cases second
  cases generation
  cases live
  cases ports .incoming
  cases ports .outgoing
  rfl

theorem without_of_not_listed {slot : Slot} {direction : Direction} {id : Nat}
    (absent : ∀ listed ∈ slot.ports direction, id ∉ listed) : slot.without direction [id] = slot := by
  apply ext_ports
  · simp
  · simp
  · intro other
    rw [ports_without]
    split
    · rename_i same
      subst same
      exact (List.map_congr_left fun listed mem => excluding_of_not_mem (absent listed mem)).trans (List.map_id _)
    · rfl

/-- An edge that is listed at no other port of the side, and once at this one, is erased here. -/
theorem withPorts_erase {slot : Slot} {direction : Direction} {position id : Nat}
    (distinct : ∀ listed, (slot.ports direction)[position]? = some listed → listed.Nodup)
    (only : ∀ (other : Nat) listed, (slot.ports direction)[other]? = some listed → id ∈ listed → other = position) :
    slot.withPorts direction ((slot.ports direction).modify position fun listed => listed.erase id) =
      slot.without direction [id] := by
  rw [without]
  congr 1
  apply modify_eq_map
  · exact fun listed get => erase_eq_excluding (distinct listed get) id
  · exact fun other listed get apart => excluding_of_not_mem fun mem => apart (only other listed get mem)

/-- The slot without some edges at its ports. -/
def withoutEdges (slot : Slot) (ids : List Nat) : Slot := (slot.without .outgoing ids).without .incoming ids

@[simp] theorem ports_withoutEdges (slot : Slot) (ids : List Nat) (direction : Direction) :
    (slot.withoutEdges ids).ports direction = (slot.ports direction).map (excluding ids) := by
  cases direction <;> rfl

@[simp] theorem live_withoutEdges (slot : Slot) (ids : List Nat) : (slot.withoutEdges ids).live = slot.live := by
  simp [withoutEdges]

@[simp] theorem generation_withoutEdges (slot : Slot) (ids : List Nat) :
    (slot.withoutEdges ids).generation = slot.generation := by
  simp [withoutEdges]

theorem withoutEdges_withoutEdges (slot : Slot) (first second : List Nat) :
    (slot.withoutEdges first).withoutEdges second = slot.withoutEdges (first ++ second) := by
  apply ext_ports
  · simp
  · simp
  · intro direction
    simp only [ports_withoutEdges, List.map_map]
    exact List.map_congr_left fun listed _ => excluding_excluding first second listed

@[simp] theorem withoutEdges_nil (slot : Slot) : slot.withoutEdges [] = slot := by
  apply ext_ports
  · simp
  · simp
  · intro direction
    rw [ports_withoutEdges]
    exact (List.map_congr_left fun listed _ => excluding_nil listed).trans (List.map_id _)

end Slot

namespace PortGraph

/-! ### Leaving out some edges -/

/-- The graph without some edges. -/
def withoutEdges (graph : PortGraph) (ids : List Nat) : PortGraph :=
  { graph with
    slots := graph.slots.map fun slot => slot.withoutEdges ids
    links := graph.links.eraseAll ids }

theorem withoutEdges_withoutEdges (graph : PortGraph) (first second : List Nat) :
    (graph.withoutEdges first).withoutEdges second = graph.withoutEdges (first ++ second) := by
  simp only [withoutEdges, List.map_map, Table.eraseAll_eraseAll, PortGraph.mk.injEq, and_self, and_true]
  exact List.map_congr_left fun slot _ => slot.withoutEdges_withoutEdges first second

@[simp] theorem withoutEdges_nil (graph : PortGraph) : graph.withoutEdges [] = graph := by
  simp [withoutEdges]

theorem foldl_withoutEdges (graph : PortGraph) (ids : List Nat) :
    ids.foldl (fun graph id => graph.withoutEdges [id]) graph = graph.withoutEdges ids := by
  induction ids generalizing graph with
  | nil => exact graph.withoutEdges_nil.symm
  | cons id rest ih => rw [List.foldl_cons, ih, withoutEdges_withoutEdges, List.singleton_append]

theorem slot?_withoutEdges (graph : PortGraph) (ids : List Nat) (node : Node) :
    (graph.withoutEdges ids).slot? node = (graph.slot? node).map fun slot => slot.withoutEdges ids := by
  rw [slot?, slot?]
  split
  · rfl
  · simp only [withoutEdges, List.getElem?_map]
    cases graph.slots[node.index.toNat]? with
    | none => rfl
    | some slot =>
      simp only [Option.map_some, Slot.live_withoutEdges, Slot.generation_withoutEdges]
      split <;> rfl

@[simp] theorem contains_withoutEdges (graph : PortGraph) (ids : List Nat) (node : Node) :
    (graph.withoutEdges ids).contains node = graph.contains node := by
  rw [contains, contains, slot?_withoutEdges, Option.isSome_map]

theorem portsOf_withoutEdges (graph : PortGraph) (ids : List Nat) (node : Node) (direction : Direction) :
    (graph.withoutEdges ids).portsOf node direction = (graph.portsOf node direction).map (excluding ids) := by
  rw [portsOf, portsOf, slot?_withoutEdges]
  cases graph.slot? node <;> simp

theorem idsAt_withoutEdges (graph : PortGraph) (ids : List Nat) (port : Port) :
    (graph.withoutEdges ids).idsAt port = excluding ids (graph.idsAt port) := by
  rw [idsAt, idsAt, portsOf_withoutEdges, List.getElem?_map]
  split
  · rfl
  · cases (graph.portsOf port.node port.direction)[port.offset.toNat]? <;> rfl

theorem Consistent.withoutEdges {graph : PortGraph} (consistent : graph.Consistent) (ids : List Nat) :
    (graph.withoutEdges ids).Consistent where
  listed_iff id port := by
    rw [idsAt_withoutEdges, mem_excluding, consistent.listed_iff]
    simp only [PortGraph.withoutEdges, Table.get?_eraseAll]
    by_cases among : id ∈ ids <;> simp [among]
  distinct port := by
    rw [idsAt_withoutEdges]
    exact (consistent.distinct port).filter _
  fresh id link found := by
    simp only [PortGraph.withoutEdges, Table.get?_eraseAll] at found
    by_cases among : id ∈ ids
    · rw [if_pos among] at found
      cases found
    · rw [if_neg among] at found
      exact consistent.fresh id link found
  vacant index slot get dead := by
    simp only [PortGraph.withoutEdges, List.getElem?_map, Option.map_eq_some_iff] at get
    obtain ⟨old, found, rfl⟩ := get
    rw [Slot.live_withoutEdges] at dead
    obtain ⟨inputs, outputs⟩ := consistent.vacant index old found dead
    constructor
    · change (old.ports .incoming).map _ = []
      rw [Slot.ports, inputs, List.map_nil]
    · change (old.ports .outgoing).map _ = []
      rw [Slot.ports, outputs, List.map_nil]
  free_nodup := consistent.free_nodup
  free_iff index := by
    change index ∈ graph.free ↔ _
    rw [consistent.free_iff]
    simp only [PortGraph.withoutEdges, List.getElem?_map, Option.map_eq_some_iff]
    constructor
    · rintro ⟨slot, get, dead⟩
      exact ⟨slot.withoutEdges ids, ⟨slot, get, rfl⟩, by rw [Slot.live_withoutEdges, dead]⟩
    · rintro ⟨_, ⟨slot, get, rfl⟩, dead⟩
      exact ⟨slot, get, by rwa [Slot.live_withoutEdges] at dead⟩
  nodeCount_eq := by
    rw [length_nodes_of_contains (graph.contains_withoutEdges ids)]
    exact consistent.nodeCount_eq

/-! ### Taking an edge from its ports -/

/-- The graph without some edges at the ports on one side. -/
def withoutEnds (graph : PortGraph) (direction : Direction) (ids : List Nat) : PortGraph :=
  { graph with slots := graph.slots.map fun slot => slot.without direction ids }

/-- An edge that a single port lists on one side, and lists once, is gone from that side when it is released. -/
theorem run_release {graph : PortGraph} {id : Nat} {port : Port} (listed : id ∈ graph.idsAt port)
    (distinct : (graph.idsAt port).Nodup)
    (only : ∀ (index : Nat) (slot : Slot) (position : Nat) (ids : List Nat), graph.slots[index]? = some slot →
      (slot.ports port.direction)[position]? = some ids → id ∈ ids →
      index = port.node.index.toNat ∧ position = port.offset.toNat) :
    (release id port.node port.direction port.offset).run graph =
      .ok () (graph.withoutEnds port.direction [id]) := by
  obtain ⟨lower, upper⟩ := hasPort_of_mem_idsAt listed
  obtain ⟨slot, found⟩ := contains_iff.1 (contains_of_mem_idsAt listed)
  obtain ⟨nonnegative, get, -, -⟩ := slot?_eq_some_iff.1 found
  rw [idsAt, if_neg (by omega)] at listed distinct
  rw [portsOf_of_slot? found] at listed distinct upper
  have inside : port.node.index.toNat < graph.slots.length := (List.getElem?_eq_some_iff.1 get).1
  have slotPosition : positionAt? graph.slots.length port.node.index = some port.node.index.toNat :=
    positionAt?_of_inside nonnegative (by omega)
  have portPosition : positionAt? (slot.ports port.direction).length port.offset = some port.offset.toNat :=
    positionAt?_of_inside lower upper
  have atSlot : (Change.ask fun (_ : PortGraph) =>
      require (positionAt? graph.slots.length port.node.index) .position).run graph = .ok port.node.index.toNat graph :=
    Change.run_ask_of_ok (Outcome.require_eq_ok_iff.2 slotPosition)
  have atPort : (Change.ask fun (_ : PortGraph) =>
      require (positionAt? (slot.ports port.direction).length port.offset) .position).run graph =
        .ok port.offset.toNat graph :=
    Change.run_ask_of_ok (Outcome.require_eq_ok_iff.2 portPosition)
  rw [release, Change.run_bind_of_ok (Change.run_get graph), Change.run_bind_of_ok atSlot]
  simp only [get, Option.getD_some]
  rw [Change.run_bind_of_ok atPort, if_pos listed, Change.run_set]
  congr 1
  -- what happens to one list at one port is what leaving out the edge does to all lists
  simp only [setSlot, withoutEnds, PortGraph.mk.injEq, and_self, and_true]
  apply modify_eq_map
  · intro other getOther
    rw [get, Option.some.injEq] at getOther
    subst getOther
    apply Slot.withPorts_erase
    · intro ids getIds
      rwa [getIds, Option.getD_some] at distinct
    · exact fun position ids getIds mem => (only _ _ _ _ get getIds mem).2
  · intro index other getOther apart
    apply Slot.without_of_not_listed
    intro ids member mem
    obtain ⟨position, getIds⟩ := List.mem_iff_getElem?.1 member
    exact apart (only _ _ _ _ getOther getIds mem).1

/-- What a slot lists is listed at a port of the live node in the slot. -/
theorem Consistent.mem_idsAt_of_slots {graph : PortGraph} (consistent : graph.Consistent) {index : Nat} {slot : Slot}
    {direction : Direction} {position : Nat} {ids : List Nat} {id : Nat} (get : graph.slots[index]? = some slot)
    (getIds : (slot.ports direction)[position]? = some ids) (mem : id ∈ ids) :
    slot.live = true ∧ id ∈ graph.idsAt ⟨⟨index, slot.generation⟩, direction, position⟩ := by
  have live : slot.live = true := by
    cases alive : slot.live with
    | true => rfl
    | false =>
      obtain ⟨inputs, outputs⟩ := consistent.vacant index slot get alive
      cases direction with
      | incoming =>
        rw [Slot.ports, inputs] at getIds
        cases getIds
      | outgoing =>
        rw [Slot.ports, outputs] at getIds
        cases getIds
  have found : graph.slot? ⟨index, slot.generation⟩ = some slot :=
    slot?_eq_some_iff.2 ⟨Int.natCast_nonneg index, get, live, rfl⟩
  refine ⟨live, ?_⟩
  rw [idsAt_natCast, portsOf_of_slot? found, getIds]
  exact mem

theorem Consistent.only {graph : PortGraph} (consistent : graph.Consistent) {id : Nat} {port : Port}
    (listed : id ∈ graph.idsAt port) (index : Nat) (slot : Slot) (position : Nat) (ids : List Nat)
    (get : graph.slots[index]? = some slot) (getIds : (slot.ports port.direction)[position]? = some ids)
    (mem : id ∈ ids) : index = port.node.index.toNat ∧ position = port.offset.toNat := by
  rw [← consistent.port_unique (consistent.mem_idsAt_of_slots get getIds mem).2 listed rfl]
  exact ⟨rfl, rfl⟩

theorem idsAt_withoutEnds_of_ne {graph : PortGraph} {direction : Direction} {ids : List Nat} {port : Port}
    (other : port.direction ≠ direction) : (graph.withoutEnds direction ids).idsAt port = graph.idsAt port := by
  have slots : (graph.withoutEnds direction ids).slot? port.node =
      (graph.slot? port.node).map fun slot => slot.without direction ids := by
    rw [slot?, slot?]
    split
    · rfl
    · simp only [withoutEnds, List.getElem?_map]
      cases graph.slots[port.node.index.toNat]? with
      | none => rfl
      | some slot =>
        simp only [Option.map_some, Slot.live_without, Slot.generation_without]
        split <;> rfl
  have ports : (graph.withoutEnds direction ids).portsOf port.node port.direction =
      graph.portsOf port.node port.direction := by
    rw [portsOf, portsOf, slots]
    cases graph.slot? port.node with
    | none => rfl
    | some slot => simp [Slot.ports_without, other]
  rw [idsAt, idsAt, ports]

theorem run_unlink {graph : PortGraph} (consistent : graph.Consistent) {id : Nat} {link : Link}
    (found : graph.links.get? id = some link) : (unlink id).run graph = .ok () (graph.withoutEdges [id]) := by
  let unrecorded : PortGraph := { graph with links := graph.links.erase id }
  let halfway : PortGraph := unrecorded.withoutEnds .outgoing [id]
  have asked : (Change.ask fun graph : PortGraph => graph.link id).run graph = .ok link graph :=
    Change.run_ask_of_ok (Outcome.require_eq_ok_iff.2 found)
  have atSource := consistent.mem_idsAt found .outgoing
  have atTarget := consistent.mem_idsAt found .incoming
  have first : (release id link.source .outgoing link.sourceOffset).run unrecorded = .ok () halfway :=
    @run_release unrecorded id (link.port .outgoing) atSource (consistent.distinct (link.port .outgoing))
      (consistent.only atSource)
  -- the first half leaves the lists at the target alone
  have same : halfway.idsAt (link.port .incoming) = graph.idsAt (link.port .incoming) :=
    idsAt_withoutEnds_of_ne (by rw [Link.port_direction]; decide)
  have second : (release id link.target .incoming link.targetOffset).run halfway =
      .ok () (halfway.withoutEnds .incoming [id]) := by
    refine @run_release halfway id (link.port .incoming) (by rw [same]; exact atTarget)
      (by rw [same]; exact consistent.distinct _) ?_
    intro index slot position ids get getIds mem
    simp only [halfway, withoutEnds, List.getElem?_map, Option.map_eq_some_iff] at get
    obtain ⟨old, getOld, rfl⟩ := get
    exact consistent.only atTarget index old position ids getOld getIds mem
  rw [unlink, Change.run_bind_of_ok asked, Change.run_bind_of_ok (Change.run_modify _ _), Change.run_bind_of_ok first,
    second]
  congr 1
  simp only [halfway, unrecorded, withoutEnds, PortGraph.withoutEdges, Slot.withoutEdges, List.map_map,
    Table.erase_eq_eraseAll]
  rfl

/-! ### Removing a node -/

/-- Every edge at the ports of a node, without repetition and in the order of their creation. -/
def incident (graph : PortGraph) (node : Node) : List Nat :=
  (SortedList.ofList ((graph.portsOf node .incoming).flatten ++ (graph.portsOf node .outgoing).flatten)).toList

theorem mem_incident {graph : PortGraph} {node : Node} {id : Nat} :
    id ∈ graph.incident node ↔ ∃ direction, id ∈ (graph.portsOf node direction).flatten := by
  rw [incident, SortedList.mem_toList, SortedList.mem_ofList, List.mem_append]
  constructor
  · rintro (incoming | outgoing)
    · exact ⟨.incoming, incoming⟩
    · exact ⟨.outgoing, outgoing⟩
  · rintro ⟨direction, mem⟩
    cases direction with
    | incoming => exact .inl mem
    | outgoing => exact .inr mem

/-- The edges with an end at a node. -/
theorem Consistent.mem_incident_iff {graph : PortGraph} (consistent : graph.Consistent) {node : Node} {id : Nat} :
    id ∈ graph.incident node ↔ ∃ link direction, graph.links.get? id = some link ∧ link.node direction = node := by
  simp only [mem_incident, mem_flatten_portsOf, consistent.listed_iff]
  constructor
  · rintro ⟨direction, offset, link, found, same⟩
    rw [Link.port, Port.mk.injEq] at same
    exact ⟨link, direction, found, same.1⟩
  · rintro ⟨link, direction, found, rfl⟩
    obtain ⟨lower, -⟩ := hasPort_of_mem_idsAt (consistent.mem_idsAt found direction)
    refine ⟨direction, (link.offset direction).toNat, link, found, ?_⟩
    rw [Link.port, Port.mk.injEq]
    exact ⟨rfl, rfl, (Int.toNat_of_nonneg lower).symm⟩

/-- The slot of a node without edges is freed. -/
def retire (graph : PortGraph) (node : Node) : PortGraph :=
  { graph.setSlot node.index.toNat fun slot => ⟨slot.generation + 1, false, [], []⟩ with
    free := node.index.toNat :: graph.free
    nodeCount := graph.nodeCount - 1 }

/-- The graph without a node and the edges at it. -/
def withoutNode (graph : PortGraph) (node : Node) : PortGraph := (graph.withoutEdges (graph.incident node)).retire node

theorem run_unlink_all {graph : PortGraph} (consistent : graph.Consistent) {ids : List Nat} (distinct : ids.Nodup)
    (recorded : ∀ id ∈ ids, ∃ link, graph.links.get? id = some link) :
    (ids.forM unlink).run graph = .ok () (graph.withoutEdges ids) := by
  rw [Change.run_forM (fun before id after split => ?_), foldl_withoutEdges]
  have member : id ∈ ids := by
    rw [split]
    exact List.mem_append_right before List.mem_cons_self
  have absent : id ∉ before := not_mem_of_split (split ▸ distinct)
  obtain ⟨link, found⟩ := recorded id member
  have still : (graph.withoutEdges before).links.get? id = some link := by
    simp only [withoutEdges, Table.get?_eraseAll, if_neg absent, found]
  rw [foldl_withoutEdges]
  exact run_unlink (consistent.withoutEdges before) still

theorem run_removeNode {graph : PortGraph} (consistent : graph.Consistent) {node : Node}
    (live : graph.contains node = true) :
    (removeNode node).run graph =
      .ok ((graph.incident node).filterMap graph.edge?) (graph.withoutNode node) := by
  obtain ⟨slot, found⟩ := contains_iff.1 live
  have ids : (SortedList.ofList slot.edgeIds).toList = graph.incident node := by
    rw [incident, portsOf_of_slot? found, portsOf_of_slot? found]
    rfl
  have recorded : ∀ id ∈ graph.incident node, ∃ link, graph.links.get? id = some link := by
    intro id mem
    obtain ⟨link, direction, recorded, -⟩ := consistent.mem_incident_iff.1 mem
    exact ⟨link, recorded⟩
  have distinct : (graph.incident node).Nodup := (SortedList.ofList _).sorted.imp Nat.ne_of_lt
  have asked : (Change.ask fun graph : PortGraph => graph.slot node).run graph = .ok slot graph :=
    Change.run_ask_of_ok (slot_of_slot? found)
  have looked : ((graph.incident node).mapM fun id => Change.ask fun graph : PortGraph => graph.edgeAt id).run graph =
      .ok ((graph.incident node).filterMap graph.edge?) graph := by
    rw [Change.run_mapM_ask PortGraph.edgeAt]
    exact Change.run_ask_of_ok (mapM_edgeAt recorded)
  rw [removeNode, Change.run_bind_of_ok asked]
  simp only [ids]
  rw [Change.run_bind_of_ok looked, Change.run_bind_of_ok (run_unlink_all consistent distinct recorded),
    Change.run_bind_of_ok (Change.run_modify _ _)]
  rfl

theorem slot?_retire {graph : PortGraph} {node : Node} (live : graph.contains node = true) (other : Node) :
    (graph.retire node).slot? other = if other = node then none else graph.slot? other := by
  obtain ⟨slot, found⟩ := contains_iff.1 live
  obtain ⟨-, get, -, -⟩ := slot?_eq_some_iff.1 found
  have slots : (graph.retire node).slots =
      graph.slots.modify node.index.toNat fun slot => ⟨slot.generation + 1, false, [], []⟩ := rfl
  apply Option.ext
  intro wanted
  rw [slot?_eq_some_iff, slots, List.getElem?_modify]
  by_cases same : other = node
  · subst same
    rw [if_pos rfl, get]
    constructor
    · rintro ⟨-, changed, alive, -⟩
      simp only [if_true, Option.map_eq_map, Option.map_some, Option.some.injEq] at changed
      subst changed
      cases alive
    · intro absent
      cases absent
  · rw [if_neg same]
    by_cases index : node.index.toNat = other.index.toNat
    · -- another node of the same slot was not live before either
      rw [slot?_of_shared found index same]
      refine iff_of_false ?_ (fun held => nomatch held)
      rintro ⟨-, changed, alive, -⟩
      rw [← index, get] at changed
      simp only [if_true, Option.map_eq_map, Option.map_some, Option.some.injEq] at changed
      subst changed
      cases alive
    · rw [slot?_eq_some_iff]
      simp only [index, if_false, Option.map_eq_map, Option.map_id']

@[simp] theorem contains_retire {graph : PortGraph} {node : Node} (live : graph.contains node = true) (other : Node) :
    (graph.retire node).contains other = (graph.contains other && decide (other ≠ node)) := by
  rw [contains, contains, slot?_retire live]
  by_cases same : other = node <;> simp [same]

theorem portsOf_retire {graph : PortGraph} {node : Node} (live : graph.contains node = true) (other : Node)
    (direction : Direction) :
    (graph.retire node).portsOf other direction = if other = node then [] else graph.portsOf other direction := by
  rw [portsOf, portsOf, slot?_retire live]
  by_cases same : other = node <;> simp [same]

theorem slots_retire {graph : PortGraph} {node : Node} {slot : Slot}
    (get : graph.slots[node.index.toNat]? = some slot) (index : Nat) :
    (graph.retire node).slots[index]? =
      if node.index.toNat = index then some ⟨slot.generation + 1, false, [], []⟩ else graph.slots[index]? := by
  change (graph.slots.modify node.index.toNat _)[index]? = _
  rw [List.getElem?_modify]
  by_cases here : node.index.toNat = index
  · subst here
    simp [get]
  · simp [here]

theorem idsAt_retire {graph : PortGraph} {node : Node} (live : graph.contains node = true)
    (unlinked : ∀ port id, id ∈ graph.idsAt port → port.node ≠ node) (port : Port) :
    (graph.retire node).idsAt port = graph.idsAt port := by
  by_cases here : port.node = node
  · have nothing : graph.idsAt port = [] :=
      List.eq_nil_iff_forall_not_mem.2 fun id mem => unlinked port id mem here
    rw [nothing, idsAt, portsOf_retire live, if_pos here]
    split <;> rfl
  · rw [idsAt, idsAt, portsOf_retire live, if_neg here]

theorem perm_nodes_retire {graph : PortGraph} {node : Node} (live : graph.contains node = true) :
    graph.nodes.Perm (node :: (graph.retire node).nodes) := by
  rw [List.perm_ext_iff_of_nodup graph.nodup_nodes]
  · intro other
    rw [List.mem_cons, mem_nodes, mem_nodes, contains_retire live]
    by_cases here : other = node
    · simp [here, live]
    · simp [here]
  · rw [List.nodup_cons, mem_nodes, contains_retire live]
    exact ⟨by simp, nodup_nodes _⟩

/-- The slot of a live node is not free. -/
theorem Consistent.not_mem_free {graph : PortGraph} (consistent : graph.Consistent) {node : Node} {slot : Slot}
    (found : graph.slot? node = some slot) : node.index.toNat ∉ graph.free := by
  obtain ⟨-, get, alive, -⟩ := slot?_eq_some_iff.1 found
  intro free
  obtain ⟨dead, getDead, isDead⟩ := (consistent.free_iff _).1 free
  rw [get, Option.some.injEq] at getDead
  subst getDead
  rw [alive] at isDead
  cases isDead

theorem Consistent.retire {graph : PortGraph} (consistent : graph.Consistent) {node : Node}
    (live : graph.contains node = true) (unlinked : ∀ port id, id ∈ graph.idsAt port → port.node ≠ node) :
    (graph.retire node).Consistent := by
  obtain ⟨slot, found⟩ := contains_iff.1 live
  obtain ⟨-, get, -, -⟩ := slot?_eq_some_iff.1 found
  constructor
  case toTidy =>
    constructor
    case vacant =>
      intro index other getOther dead
      rw [slots_retire get] at getOther
      split at getOther
      · rw [Option.some.injEq] at getOther
        subst getOther
        exact ⟨rfl, rfl⟩
      · exact consistent.vacant index other getOther dead
    case free_nodup => exact List.nodup_cons.2 ⟨consistent.not_mem_free found, consistent.free_nodup⟩
    case free_iff =>
      intro index
      change index ∈ node.index.toNat :: graph.free ↔ _
      rw [List.mem_cons, slots_retire get, consistent.free_iff]
      by_cases here : node.index.toNat = index
      · simp [here]
      · have apart : index ≠ node.index.toNat := fun reverse => here reverse.symm
        simp [here, apart]
    case nodeCount_eq =>
      change graph.nodeCount - 1 = _
      rw [consistent.nodeCount_eq, (perm_nodes_retire live).length_eq, List.length_cons, Nat.add_sub_cancel]
  case listed_iff =>
    intro id port
    rw [idsAt_retire live unlinked]
    exact consistent.listed_iff id port
  case distinct =>
    intro port
    rw [idsAt_retire live unlinked]
    exact consistent.distinct port
  case fresh => exact consistent.fresh

/-- No edge is left at a node whose edges are gone. -/
theorem Consistent.unlinked_withoutEdges {graph : PortGraph} (consistent : graph.Consistent) {node : Node} (port : Port)
    (id : Nat) (listed : id ∈ (graph.withoutEdges (graph.incident node)).idsAt port) : port.node ≠ node := by
  intro here
  rw [idsAt_withoutEdges, mem_excluding] at listed
  obtain ⟨link, found, same⟩ := (consistent.listed_iff id port).1 listed.1
  apply listed.2
  rw [consistent.mem_incident_iff]
  refine ⟨link, port.direction, found, ?_⟩
  rw [← here, ← same, Link.port_node, Link.port_direction]

theorem Consistent.withoutNode {graph : PortGraph} (consistent : graph.Consistent) {node : Node}
    (live : graph.contains node = true) : (graph.withoutNode node).Consistent :=
  (consistent.withoutEdges (graph.incident node)).retire (by rw [contains_withoutEdges, live])
    consistent.unlinked_withoutEdges

theorem Consistent.idsAt_withoutNode {graph : PortGraph} (consistent : graph.Consistent) {node : Node}
    (live : graph.contains node = true) (port : Port) :
    (graph.withoutNode node).idsAt port = (graph.withoutEdges (graph.incident node)).idsAt port :=
  idsAt_retire (by rw [contains_withoutEdges, live]) consistent.unlinked_withoutEdges port

theorem contains_withoutNode {graph : PortGraph} {node : Node} (live : graph.contains node = true) (other : Node) :
    (graph.withoutNode node).contains other = (graph.contains other && decide (other ≠ node)) := by
  rw [withoutNode, contains_retire (by rw [contains_withoutEdges, live]), contains_withoutEdges]

theorem portsOf_withoutNode {graph : PortGraph} {node : Node} (live : graph.contains node = true) (other : Node)
    (direction : Direction) :
    (graph.withoutNode node).portsOf other direction =
      if other = node then [] else (graph.portsOf other direction).map (excluding (graph.incident node)) := by
  rw [withoutNode, portsOf_retire (by rw [contains_withoutEdges, live]), portsOf_withoutEdges]

theorem run_disconnect {graph : PortGraph} (consistent : graph.Consistent) {id : Nat} {link : Link}
    (found : graph.links.get? id = some link) :
    (disconnect id).run graph = .ok (link.edge id) (graph.withoutEdges [id]) := by
  have known : graph.edgeId id = .ok id := by
    rw [edgeId, if_pos ⟨Int.natCast_nonneg id, (graph.links.contains_iff id).2 ⟨link, found⟩⟩]
    rfl
  have edge : graph.edgeAt id = .ok (link.edge id) := edgeAt_eq_ok_iff.2 (by rw [edge?, found, Option.map_some])
  simp only [disconnect, Change.run_ask_bind, known, edge]
  rw [Change.run_bind_of_ok (run_unlink consistent found)]
  rfl

theorem run_disconnect_of_not {graph : PortGraph} {id : Int}
    (unrecorded : ∀ (known : Nat) (link : Link), id = known → graph.links.get? known ≠ some link) :
    ∃ error, (disconnect id).run graph = .error error graph := by
  refine ⟨.bare (.shape (.absentEdge id)), ?_⟩
  have unknown : graph.edgeId id = .error (.bare (.shape (.absentEdge id))) := by
    rw [edgeId, if_neg]
    · rfl
    · rintro ⟨nonnegative, contained⟩
      obtain ⟨link, found⟩ := (graph.links.contains_iff _).1 contained
      exact unrecorded id.toNat link (Int.toNat_of_nonneg nonnegative).symm found
  simp only [disconnect, Change.run_ask_bind, unknown]

end PortGraph

end NestedFlow
