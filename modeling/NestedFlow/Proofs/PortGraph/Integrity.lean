import NestedFlow.Proofs.PortGraph.Questions
import NestedFlow.Proofs.PortGraph.Removal
import NestedFlow.Proofs.PortGraph.Renumbering

/-! Port graphs that are built from nothing, and their integrity.

A graph is changed by edits, which settle: one that fails leaves the graph as it was. The arena, the records of the
edges and the lists at the ports agree after any sequence of them.
-/

set_option autoImplicit false

namespace NestedFlow.PortGraph

/-- A change of a port graph from outside. -/
inductive Edit where
  | addNode (inputs outputs : Int)
  | removeNode (node : Node)
  | setNumPorts (node : Node) (inputs outputs : Int)
  | insertPort (node : Node) (direction : Direction) (offset : Int)
  | removePort (node : Node) (direction : Direction) (offset : Int)
  | connect (source target : Port) (kind : EdgeKind)
  | disconnect (edge : Int)

/-- The graph after an edit, whether it succeeds or fails. -/
def Edit.apply (edit : Edit) (graph : PortGraph) : PortGraph :=
  match edit with
  | .addNode inputs outputs => ((PortGraph.addNode inputs outputs).perform graph).2
  | .removeNode node => ((PortGraph.removeNode node).perform graph).2
  | .setNumPorts node inputs outputs => ((PortGraph.setNumPorts node inputs outputs).perform graph).2
  | .insertPort node direction offset => ((PortGraph.insertPort node direction offset).perform graph).2
  | .removePort node direction offset => ((PortGraph.removePort node direction offset).perform graph).2
  | .connect source target kind => ((PortGraph.connect source target kind).perform graph).2
  | .disconnect edge => ((PortGraph.disconnect edge).perform graph).2

/-- The arena, the records of the edges and the lists at the ports agree. -/
structure Intact (graph : PortGraph) : Prop where
  /-- The ends of an edge are ports of live nodes that list the edge once. -/
  recorded : ∀ id link, graph.links.get? id = some link → ∀ direction, ∃ slot ids,
    graph.slot? (link.node direction) = some slot ∧ 0 ≤ link.offset direction ∧
      (slot.ports direction)[(link.offset direction).toNat]? = some ids ∧ ids.count id = 1
  /-- What a port of any slot lists is an edge that ends there. -/
  listed : ∀ (index : Nat) (slot : Slot) (direction : Direction) (offset : Nat) (ids : List Nat) (id : Nat),
    graph.slots[index]? = some slot → (slot.ports direction)[offset]? = some ids → id ∈ ids →
      slot.live = true ∧ ∃ link, graph.links.get? id = some link ∧
        link.port direction = ⟨⟨index, slot.generation⟩, direction, offset⟩
  free_nodup : graph.free.Nodup
  free_iff : ∀ index, index ∈ graph.free ↔ ∃ slot, graph.slots[index]? = some slot ∧ slot.live = false
  nodeCount_eq : graph.nodeCount = graph.slots.countP fun slot => slot.live
  /-- Two ports are linked equally often, from whichever of them one looks. -/
  linked : ∀ first second, graph.checkPort first = .ok () → graph.checkPort second = .ok () →
    ∃ fromFirst fromSecond, graph.linkedPorts first = .ok fromFirst ∧ graph.linkedPorts second = .ok fromSecond ∧
      fromFirst.count second = fromSecond.count first
  edgeProblems_eq : graph.edgeProblems = .ok []

/-! ### Edits settle -/

/-- Numbers of ports by their direction. -/
def counted (inputs outputs : Nat) : Direction → Nat
  | .incoming => inputs
  | .outgoing => outputs

namespace Consistent

variable {graph : PortGraph}

theorem settles_addNode (consistent : graph.Consistent) (inputs outputs : Int) :
    (addNode inputs outputs).Settles Consistent graph := by
  by_cases negative : inputs < 0 ∨ outputs < 0
  · apply Change.settles_of_error
    rw [addNode, if_pos negative]
    rfl
  · obtain ⟨first, rfl⟩ := Int.eq_ofNat_of_zero_le (show 0 ≤ inputs by omega)
    obtain ⟨second, rfl⟩ := Int.eq_ofNat_of_zero_le (show 0 ≤ outputs by omega)
    exact Change.settles_of_ok (graph.run_addNode (counted first second)) (consistent.grown (counted first second))

theorem settles_removeNode (consistent : graph.Consistent) (node : Node) :
    (removeNode node).Settles Consistent graph := by
  cases live : graph.contains node with
  | true => exact Change.settles_of_ok (run_removeNode consistent live) (consistent.withoutNode live)
  | false =>
    apply Change.settles_ask_bind
    intro slot found
    rw [contains_iff.2 ⟨slot, slot_eq_ok_iff.1 found⟩] at live
    cases live

theorem settles_setNumPorts (consistent : graph.Consistent) (node : Node) (inputs outputs : Int) :
    (setNumPorts node inputs outputs).Settles Consistent graph := by
  by_cases negative : inputs < 0 ∨ outputs < 0
  · -- the first negative number is refused before anything is changed
    apply Change.settles_ask_bind
    intro slot _
    apply Change.settles_ask_bind
    intro _ inputsFit
    apply Change.settles_ask_bind
    intro _ outputsFit
    rw [checkCount] at inputsFit outputsFit
    split at inputsFit
    · cases inputsFit
    · rw [if_pos (by omega)] at outputsFit
      cases outputsFit
  · obtain ⟨first, rfl⟩ := Int.eq_ofNat_of_zero_le (show 0 ≤ inputs by omega)
    obtain ⟨second, rfl⟩ := Int.eq_ofNat_of_zero_le (show 0 ≤ outputs by omega)
    by_cases fits : graph.contains node = true ∧ graph.Fits node (counted first second)
    · have run := @run_setNumPorts graph node (counted first second) fits.1 fits.2
      exact Change.settles_of_ok run (consistent.resized _ fits.1 fits.2)
    · obtain ⟨error, run⟩ := run_setNumPorts_of_not fits
      exact Change.settles_of_error run

theorem settles_connect (consistent : graph.Consistent) (source target : Port) (kind : EdgeKind) :
    (connect source target kind).Settles Consistent graph := by
  by_cases fits : source.direction = .outgoing ∧ target.direction = .incoming ∧ graph.HasPort source ∧
      graph.HasPort target
  · obtain ⟨out, into, hasSource, hasTarget⟩ := fits
    exact Change.settles_of_ok (run_connect kind out into hasSource hasTarget)
      (consistent.linked kind out into hasSource hasTarget)
  · obtain ⟨error, run⟩ := run_connect_of_not kind fits
    exact Change.settles_of_error run

theorem settles_disconnect (consistent : graph.Consistent) (id : Int) :
    (disconnect id).Settles Consistent graph := by
  by_cases recorded : ∃ (known : Nat) (link : Link), id = known ∧ graph.links.get? known = some link
  · obtain ⟨known, link, rfl, found⟩ := recorded
    exact Change.settles_of_ok (run_disconnect consistent found) (consistent.withoutEdges [known])
  · obtain ⟨error, run⟩ := run_disconnect_of_not fun known link same found => recorded ⟨known, link, same, found⟩
    exact Change.settles_of_error run

theorem edited (consistent : graph.Consistent) (edit : Edit) : (edit.apply graph).Consistent := by
  cases edit with
  | addNode inputs outputs => exact (consistent.settles_addNode inputs outputs).perform consistent
  | removeNode node => exact (consistent.settles_removeNode node).perform consistent
  | setNumPorts node inputs outputs => exact (consistent.settles_setNumPorts node inputs outputs).perform consistent
  | insertPort node direction offset => exact (consistent.settles_insertPort node direction offset).perform consistent
  | removePort node direction offset => exact (consistent.settles_removePort node direction offset).perform consistent
  | connect source target kind => exact (consistent.settles_connect source target kind).perform consistent
  | disconnect edge => exact (consistent.settles_disconnect edge).perform consistent

theorem of_edits (edits : List Edit) : (edits.foldl (fun graph edit => edit.apply graph) empty).Consistent := by
  have further : ∀ graph : PortGraph, graph.Consistent →
      (edits.foldl (fun graph edit => edit.apply graph) graph).Consistent := by
    induction edits with
    | nil => exact fun _ consistent => consistent
    | cons edit rest ih => exact fun graph consistent => ih (edit.apply graph) (consistent.edited edit)
  exact further empty consistent_empty

/-! ### Linked ports -/

/-- A port is linked to another one by the edges that both list. -/
theorem count_linked (consistent : graph.Consistent) {first second : Port}
    (opposite : second.direction = first.direction.reverse) :
    ((graph.edgesAt first).map fun edge => edge.port first.direction.reverse).count second =
      ((graph.idsAt first).filter fun id => decide (id ∈ graph.idsAt second)).length := by
  rw [List.count_eq_countP, List.countP_map, edgesAt, List.countP_filterMap, ← List.countP_eq_length_filter]
  apply List.countP_congr
  intro id listed
  obtain ⟨link, found⟩ := consistent.recorded_of_mem_idsAt listed
  -- a port lists an edge exactly if the edge ends there, and the other end is the one that is counted
  have there : id ∈ graph.idsAt second ↔ link.port second.direction = second := by
    rw [consistent.listed_iff]
    constructor
    · rintro ⟨other, same, atPort⟩
      rw [found, Option.some.injEq] at same
      rwa [same]
    · exact fun atPort => ⟨link, found, atPort⟩
  rw [decide_eq_true_iff, there, edge?, found]
  simp [Link.port_edge, opposite]

theorem count_linkedPorts (consistent : graph.Consistent) {first second : Port} {fromFirst fromSecond : List Port}
    (hasFirst : graph.HasPort first) (hasSecond : graph.HasPort second)
    (asksFirst : graph.linkedPorts first = .ok fromFirst) (asksSecond : graph.linkedPorts second = .ok fromSecond) :
    fromFirst.count second = fromSecond.count first := by
  rw [consistent.linkedPorts_eq hasFirst, Except.ok.injEq] at asksFirst
  rw [consistent.linkedPorts_eq hasSecond, Except.ok.injEq] at asksSecond
  subst asksFirst asksSecond
  by_cases opposite : second.direction = first.direction.reverse
  · have reverse : first.direction = second.direction.reverse := by
      rw [opposite]
      cases first.direction <;> rfl
    rw [consistent.count_linked opposite, consistent.count_linked reverse]
    -- both counts are of the edges that both ports list
    apply List.Perm.length_eq
    rw [List.perm_ext_iff_of_nodup ((consistent.distinct first).filter _) ((consistent.distinct second).filter _)]
    intro id
    simp only [List.mem_filter, decide_eq_true_eq, and_comm]
  · -- no edge joins two ports on the same side
    have none : ∀ near far : Port, far.direction ≠ near.direction.reverse →
        ((graph.edgesAt near).map fun edge => edge.port near.direction.reverse).count far = 0 := by
      intro near far apart
      rw [List.count_eq_zero]
      intro member
      obtain ⟨edge, listed, rfl⟩ := List.mem_map.1 member
      obtain ⟨link, -, -, same⟩ := consistent.mem_edgesAt.1 listed
      apply apart
      rw [same, Link.port_edge, Link.port_direction]
    rw [none first second opposite, none second first]
    intro reverse
    apply opposite
    rw [reverse]
    cases second.direction <;> rfl

/-! ### Integrity -/

theorem length_nodesFrom (start : Nat) (slots : List Slot) :
    (nodesFrom start slots).length = slots.countP fun slot => slot.live := by
  induction slots generalizing start with
  | nil => rfl
  | cons slot rest ih =>
    rw [nodesFrom, List.countP_cons]
    split
    · rw [List.length_cons, ih]
    · rw [ih, Nat.add_zero]

theorem intact (consistent : graph.Consistent) : graph.Intact where
  recorded id link found direction := by
    have listed := consistent.mem_idsAt found direction
    have has := hasPort_of_mem_idsAt listed
    obtain ⟨slot, held, get⟩ := exists_slot_of_hasPort has
    exact ⟨slot, _, held, has.1, get, List.count_eq_one_of_mem (consistent.distinct _) listed⟩
  listed index slot direction offset ids id get getIds mem := by
    obtain ⟨live, here⟩ := consistent.mem_idsAt_of_slots get getIds mem
    exact ⟨live, (consistent.listed_iff id _).1 here⟩
  free_nodup := consistent.free_nodup
  free_iff := consistent.free_iff
  nodeCount_eq := by rw [consistent.nodeCount_eq, nodes, length_nodesFrom]
  linked first second hasFirst hasSecond := by
    have first' := checkPort_eq_ok_iff.1 hasFirst
    have second' := checkPort_eq_ok_iff.1 hasSecond
    have asksFirst := consistent.linkedPorts_eq first'
    have asksSecond := consistent.linkedPorts_eq second'
    exact ⟨_, _, asksFirst, asksSecond, consistent.count_linkedPorts first' second' asksFirst asksSecond⟩
  edgeProblems_eq := consistent.edgeProblems_eq

end Consistent

/-- Whatever edits build a graph from nothing, failing ones included, it is intact. -/
theorem intact_of_edits (edits : List Edit) :
    (edits.foldl (fun graph edit => edit.apply graph) empty).Intact := (Consistent.of_edits edits).intact

end NestedFlow.PortGraph
