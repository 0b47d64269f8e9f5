import NestedFlow.PortGraph
import NestedFlow.Proofs.Outcome
import NestedFlow.Proofs.Table

/-! A port graph seen through identities: the live nodes, their ports, and the edges that are listed there. -/

set_option autoImplicit false

namespace NestedFlow

theorem itemAt?_of_nonneg {α : Type} {position : Int} (nonnegative : 0 ≤ position) (items : List α) :
    itemAt? items position = items[position.toNat]? := by
  obtain ⟨index, rfl⟩ := Int.eq_ofNat_of_zero_le nonnegative
  rw [itemAt?_natCast, Int.toNat_natCast]

theorem positionAt?_of_inside {length : Nat} {position : Int} (lower : 0 ≤ position) (upper : position < length) :
    positionAt? length position = some position.toNat := by
  simp only [positionAt?]
  rw [if_neg (by omega), if_neg (by omega)]

/-- The port at one end of an edge. -/
def Link.port (link : Link) (direction : Direction) : Port := ⟨link.node direction, direction, link.offset direction⟩

@[simp] theorem Link.port_node (link : Link) (direction : Direction) : (link.port direction).node = link.node direction :=
  rfl

@[simp] theorem Link.port_direction (link : Link) (direction : Direction) : (link.port direction).direction = direction :=
  rfl

namespace PortGraph

/-! ### Live nodes -/

theorem slot?_eq_some_iff {graph : PortGraph} {node : Node} {slot : Slot} :
    graph.slot? node = some slot ↔ 0 ≤ node.index ∧ graph.slots[node.index.toNat]? = some slot ∧ slot.live = true ∧
      (slot.generation : Int) = node.generation := by
  rw [slot?]
  by_cases negative : node.index < 0
  · rw [if_pos negative]
    constructor
    · intro found; cases found
    · rintro ⟨nonnegative, -⟩; omega
  · rw [if_neg negative]
    have nonnegative : 0 ≤ node.index := by omega
    cases graph.slots[node.index.toNat]? with
    | none => simp
    | some found =>
      by_cases live : found.live = true ∧ (found.generation : Int) = node.generation
      · simp only [live, and_self, if_true, Option.some.injEq, nonnegative, true_and]
        constructor
        · rintro rfl; exact ⟨rfl, live⟩
        · exact And.left
      · simp only [live, if_false, Option.some.injEq, nonnegative, true_and, reduceCtorEq, false_iff]
        rintro ⟨rfl, held⟩
        exact live held

/-- Of the nodes that share a slot only one is live. -/
theorem slot?_of_shared {graph : PortGraph} {node other : Node} {slot : Slot} (found : graph.slot? node = some slot)
    (shared : node.index.toNat = other.index.toNat) (apart : other ≠ node) : graph.slot? other = none := by
  obtain ⟨nonnegative, get, -, generation⟩ := slot?_eq_some_iff.1 found
  rw [Option.eq_none_iff_forall_ne_some]
  intro wanted held
  obtain ⟨lower, getOther, -, matching⟩ := slot?_eq_some_iff.1 held
  rw [← shared, get, Option.some.injEq] at getOther
  subst getOther
  apply apart
  rw [Node.mk.injEq]
  omega

/-- An output is not an input. -/
theorem ne_of_sides {source target : Port} (out : source.direction = .outgoing) (into : target.direction = .incoming) :
    source ≠ target := by
  rintro rfl
  rw [out] at into
  cases into

theorem contains_iff {graph : PortGraph} {node : Node} :
    graph.contains node = true ↔ ∃ slot, graph.slot? node = some slot := by
  rw [contains, Option.isSome_iff_exists]

theorem contains_eq_false_iff {graph : PortGraph} {node : Node} :
    graph.contains node = false ↔ graph.slot? node = none := by
  rw [contains]
  cases graph.slot? node <;> simp

theorem mem_nodesFrom {start : Nat} {slots : List Slot} {node : Node} :
    node ∈ nodesFrom start slots ↔
      ∃ (position : Nat) (slot : Slot), slots[position]? = some slot ∧ slot.live = true ∧
        node = ⟨(start + position : Nat), slot.generation⟩ := by
  induction slots generalizing start with
  | nil => simp [nodesFrom]
  | cons slot rest ih =>
    have further : node ∈ nodesFrom (start + 1) rest ↔ ∃ (position : Nat) (found : Slot),
        (slot :: rest)[position + 1]? = some found ∧ found.live = true ∧
          node = ⟨(start + (position + 1) : Nat), found.generation⟩ := by
      rw [ih]
      simp only [List.getElem?_cons_succ, Nat.add_assoc, Nat.add_comm 1]
    have whole : node ∈ nodesFrom start (slot :: rest) ↔
        (slot.live = true ∧ node = ⟨(start : Nat), slot.generation⟩) ∨ node ∈ nodesFrom (start + 1) rest := by
      rw [nodesFrom]
      split
      · rename_i live; simp [live]
      · rename_i dead; simp [dead]
    rw [whole, further]
    constructor
    · rintro (⟨live, same⟩ | ⟨position, found, rest⟩)
      · exact ⟨0, slot, rfl, live, same⟩
      · exact ⟨position + 1, found, rest⟩
    · rintro ⟨position, found, get, rest⟩
      cases position with
      | zero =>
        rw [List.getElem?_cons_zero, Option.some.injEq] at get
        subst get
        exact .inl rest
      | succ position => exact .inr ⟨position, found, get, rest⟩

theorem mem_nodes {graph : PortGraph} {node : Node} : node ∈ graph.nodes ↔ graph.contains node = true := by
  rw [nodes, mem_nodesFrom, contains_iff]
  constructor
  · rintro ⟨position, slot, get, live, rfl⟩
    refine ⟨slot, slot?_eq_some_iff.2 ⟨by simp, ?_, live, rfl⟩⟩
    simpa using get
  · rintro ⟨slot, found⟩
    obtain ⟨nonnegative, get, live, generation⟩ := slot?_eq_some_iff.1 found
    refine ⟨node.index.toNat, slot, get, live, ?_⟩
    rw [Nat.zero_add, Int.toNat_of_nonneg nonnegative, generation]

/-- Nodes are listed by the position of their slots. -/
theorem pairwise_nodesFrom (start : Nat) (slots : List Slot) :
    (nodesFrom start slots).Pairwise fun first second => first.index < second.index := by
  induction slots generalizing start with
  | nil => exact .nil
  | cons slot rest ih =>
    rw [nodesFrom]
    split
    · rw [List.pairwise_cons]
      refine ⟨fun node mem => ?_, ih (start + 1)⟩
      obtain ⟨position, found, -, -, rfl⟩ := mem_nodesFrom.1 mem
      dsimp only
      omega
    · exact ih (start + 1)

theorem pairwise_nodes (graph : PortGraph) :
    graph.nodes.Pairwise fun first second => first.index < second.index := pairwise_nodesFrom 0 graph.slots

theorem nodup_nodes (graph : PortGraph) : graph.nodes.Nodup :=
  graph.pairwise_nodes.imp fun {first second} before same => by rw [same] at before; exact Int.lt_irrefl _ before

/-! ### Ports -/

/-- The ports of a node, with the edges listed there; none if the node is not live. -/
def portsOf (graph : PortGraph) (node : Node) (direction : Direction) : List (List Nat) :=
  match graph.slot? node with
  | some slot => slot.ports direction
  | none => []

/-- The edges listed at a port; none if there is no such port. -/
def idsAt (graph : PortGraph) (port : Port) : List Nat :=
  if port.offset < 0 then [] else ((graph.portsOf port.node port.direction)[port.offset.toNat]?).getD []

def HasPort (graph : PortGraph) (port : Port) : Prop :=
  0 ≤ port.offset ∧ port.offset < (graph.portsOf port.node port.direction).length

theorem portsOf_of_slot? {graph : PortGraph} {node : Node} {slot : Slot} (found : graph.slot? node = some slot)
    (direction : Direction) : graph.portsOf node direction = slot.ports direction := by
  rw [portsOf, found]

theorem contains_of_hasPort {graph : PortGraph} {port : Port} (has : graph.HasPort port) :
    graph.contains port.node = true := by
  obtain ⟨lower, upper⟩ := has
  rw [portsOf] at upper
  rw [contains]
  cases found : graph.slot? port.node with
  | some slot => rfl
  | none =>
    rw [found] at upper
    simp only [List.length_nil] at upper
    omega

theorem hasPort_of_mem_idsAt {graph : PortGraph} {port : Port} {id : Nat} (listed : id ∈ graph.idsAt port) :
    graph.HasPort port := by
  rw [idsAt] at listed
  by_cases negative : port.offset < 0
  · rw [if_pos negative] at listed
    cases listed
  · rw [if_neg negative] at listed
    have inside : port.offset.toNat < (graph.portsOf port.node port.direction).length := by
      apply Nat.lt_of_not_le
      intro outside
      rw [List.getElem?_eq_none outside] at listed
      cases listed
    constructor <;> omega

/-- A port has its list in the slot of its node. -/
theorem exists_slot_of_hasPort {graph : PortGraph} {port : Port} (has : graph.HasPort port) :
    ∃ slot, graph.slot? port.node = some slot ∧
      (slot.ports port.direction)[port.offset.toNat]? = some (graph.idsAt port) := by
  obtain ⟨slot, found⟩ := contains_iff.1 (contains_of_hasPort has)
  obtain ⟨lower, upper⟩ := has
  rw [portsOf_of_slot? found] at upper
  have inside : port.offset.toNat < (slot.ports port.direction).length := by omega
  refine ⟨slot, found, ?_⟩
  rw [idsAt, if_neg (Int.not_lt.2 lower), portsOf_of_slot? found, List.getElem?_eq_getElem inside, Option.getD_some]

theorem contains_of_mem_idsAt {graph : PortGraph} {port : Port} {id : Nat} (listed : id ∈ graph.idsAt port) :
    graph.contains port.node = true := contains_of_hasPort (hasPort_of_mem_idsAt listed)

theorem idsAt_natCast (graph : PortGraph) (node : Node) (direction : Direction) (offset : Nat) :
    graph.idsAt ⟨node, direction, offset⟩ = ((graph.portsOf node direction)[offset]?).getD [] := by
  have nonnegative : ¬ (offset : Int) < 0 := by omega
  rw [idsAt, if_neg nonnegative]
  rfl

theorem mem_flatten_portsOf {graph : PortGraph} {node : Node} {direction : Direction} {id : Nat} :
    id ∈ (graph.portsOf node direction).flatten ↔ ∃ offset : Nat, id ∈ graph.idsAt ⟨node, direction, offset⟩ := by
  rw [List.mem_flatten]
  constructor
  · rintro ⟨listed, member, mem⟩
    obtain ⟨offset, get⟩ := List.mem_iff_getElem?.1 member
    refine ⟨offset, ?_⟩
    rw [idsAt_natCast, get]
    exact mem
  · rintro ⟨offset, mem⟩
    rw [idsAt_natCast] at mem
    cases found : (graph.portsOf node direction)[offset]? with
    | none =>
      rw [found] at mem
      cases mem
    | some listed =>
      rw [found] at mem
      exact ⟨listed, List.mem_of_getElem? found, mem⟩

theorem slot_of_slot? {graph : PortGraph} {node : Node} {slot : Slot} (found : graph.slot? node = some slot) :
    graph.slot node = .ok slot := by
  rw [PortGraph.slot, found]
  rfl

theorem slot_eq_ok_iff {graph : PortGraph} {node : Node} {slot : Slot} :
    graph.slot node = .ok slot ↔ graph.slot? node = some slot := by
  rw [PortGraph.slot]
  cases graph.slot? node <;> simp [failAt]

theorem numPorts_of_contains {graph : PortGraph} {node : Node} (live : graph.contains node = true)
    (direction : Direction) : graph.numPorts node direction = .ok (graph.portsOf node direction).length := by
  obtain ⟨slot, found⟩ := contains_iff.1 live
  rw [numPorts, slot_of_slot? found, Outcome.ok_bind, portsOf_of_slot? found]
  rfl

theorem checkPort_eq_ok_iff {graph : PortGraph} {port : Port} : graph.checkPort port = .ok () ↔ graph.HasPort port := by
  cases live : graph.contains port.node with
  | true =>
    rw [checkPort, numPorts_of_contains live, Outcome.ok_bind, HasPort]
    split
    · rename_i outside
      simp only [failAt, reduceCtorEq, false_iff]
      omega
    · rename_i inside
      simp only [Outcome.pure_eq, true_iff]
      omega
  | false =>
    have absent := contains_eq_false_iff.1 live
    constructor
    · intro checked
      rw [checkPort, numPorts, PortGraph.slot, absent] at checked
      cases checked
    · intro has
      rw [contains_of_hasPort has] at live
      cases live

@[simp] theorem contains_empty (node : Node) : empty.contains node = false := by
  rw [contains_eq_false_iff, Option.eq_none_iff_forall_ne_some]
  intro slot found
  cases (slot?_eq_some_iff.1 found).2.1

theorem idsAt_empty (port : Port) : empty.idsAt port = [] := by
  rw [List.eq_nil_iff_forall_not_mem]
  intro id listed
  have live := contains_of_mem_idsAt listed
  rw [contains_empty] at live
  cases live

/-! ### Edges -/

def edge? (graph : PortGraph) (id : Nat) : Option Edge := (graph.links.get? id).map fun link => link.edge id

theorem edgeAt_eq_ok_iff {graph : PortGraph} {id : Nat} {edge : Edge} :
    graph.edgeAt id = .ok edge ↔ graph.edge? id = some edge := by
  rw [edgeAt, link, edge?]
  cases graph.links.get? id <;> simp [require, fail]

theorem mapM_edgeAt {graph : PortGraph} {ids : List Nat} (recorded : ∀ id ∈ ids, ∃ link, graph.links.get? id = some link) :
    ids.mapM graph.edgeAt = .ok (ids.filterMap graph.edge?) := by
  induction ids with
  | nil => rfl
  | cons id rest ih =>
    obtain ⟨link, found⟩ := recorded id List.mem_cons_self
    have first : graph.edge? id = some (link.edge id) := by rw [edge?, found, Option.map_some]
    rw [List.mapM_cons, edgeAt_eq_ok_iff.2 first, ih fun id mem => recorded id (List.mem_cons_of_mem _ mem),
      List.filterMap_cons_some first]
    rfl

/-- An edge that is listed at a recorded end has no problem there. -/
theorem endProblem?_of_mem {graph : PortGraph} {id : Nat} {link : Link} {direction : Direction}
    (listed : id ∈ graph.idsAt (link.port direction)) : graph.endProblem? id link direction = .ok none := by
  obtain ⟨lower, upper⟩ := hasPort_of_mem_idsAt listed
  obtain ⟨slot, found⟩ := contains_iff.1 (contains_of_mem_idsAt listed)
  rw [idsAt, if_neg (by omega)] at listed
  rw [portsOf_of_slot? found] at listed upper
  change 0 ≤ link.offset direction at lower
  change link.offset direction < (slot.ports direction).length at upper
  change graph.slot? (link.node direction) = some slot at found
  change id ∈ ((slot.ports direction)[(link.offset direction).toNat]?).getD [] at listed
  rw [List.getElem?_eq_getElem (by omega), Option.getD_some] at listed
  rw [endProblem?, found]
  simp only [itemAt?_of_nonneg lower]
  rw [if_neg (by omega), List.getElem?_eq_getElem (by omega), require, Outcome.pure_eq, Outcome.ok_bind,
    if_pos listed]
  rfl

end PortGraph

end NestedFlow
