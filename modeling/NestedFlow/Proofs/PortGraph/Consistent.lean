import Mathlib.Data.List.Nodup
import NestedFlow.Proofs.PortGraph.Ports

/-! Port graphs whose arena, edge records and port lists agree.

Every edge is recorded once and listed twice: what is listed at a port are exactly the edges whose recorded end is
that port, once each.
-/

set_option autoImplicit false

namespace NestedFlow.PortGraph

/-- The free list has the dead slots, which have no ports, and the live nodes are counted. -/
structure Tidy (graph : PortGraph) : Prop where
  vacant : ∀ (index : Nat) (slot : Slot), graph.slots[index]? = some slot → slot.live = false →
    slot.inputs = [] ∧ slot.outputs = []
  free_nodup : graph.free.Nodup
  free_iff : ∀ index, index ∈ graph.free ↔ ∃ slot, graph.slots[index]? = some slot ∧ slot.live = false
  nodeCount_eq : graph.nodeCount = graph.nodes.length

structure Consistent (graph : PortGraph) : Prop extends Tidy graph where
  listed_iff : ∀ id port,
    id ∈ graph.idsAt port ↔ ∃ link, graph.links.get? id = some link ∧ link.port port.direction = port
  distinct : ∀ port, (graph.idsAt port).Nodup
  fresh : ∀ id link, graph.links.get? id = some link → id < graph.nextEdge

namespace Consistent

variable {graph : PortGraph}

theorem mem_idsAt (consistent : graph.Consistent) {id : Nat} {link : Link} (found : graph.links.get? id = some link)
    (direction : Direction) : id ∈ graph.idsAt (link.port direction) :=
  (consistent.listed_iff id (link.port direction)).2 ⟨link, found, rfl⟩

theorem contains_end (consistent : graph.Consistent) {id : Nat} {link : Link}
    (found : graph.links.get? id = some link) (direction : Direction) : graph.contains (link.node direction) = true :=
  contains_of_mem_idsAt (consistent.mem_idsAt found direction)

/-- An edge is listed at one port only, on either side. -/
theorem port_unique (consistent : graph.Consistent) {id : Nat} {first second : Port} (atFirst : id ∈ graph.idsAt first)
    (atSecond : id ∈ graph.idsAt second) (same : first.direction = second.direction) : first = second := by
  obtain ⟨link, found, isFirst⟩ := (consistent.listed_iff id first).1 atFirst
  obtain ⟨other, foundOther, isSecond⟩ := (consistent.listed_iff id second).1 atSecond
  rw [found, Option.some.injEq] at foundOther
  rw [← isFirst, ← isSecond, same, foundOther]

theorem nodup_flatten_portsOf (consistent : graph.Consistent) (node : Node) (direction : Direction) :
    (graph.portsOf node direction).flatten.Nodup := by
  rw [List.nodup_flatten]
  constructor
  · intro listed member
    obtain ⟨offset, get⟩ := List.mem_iff_getElem?.1 member
    have distinct := consistent.distinct ⟨node, direction, offset⟩
    rwa [idsAt_natCast, get] at distinct
  · rw [List.pairwise_iff_getElem]
    intro first second firstInside secondInside before id atFirst atSecond
    have firstListed : id ∈ graph.idsAt ⟨node, direction, first⟩ := by
      rw [idsAt_natCast, List.getElem?_eq_getElem firstInside]
      exact atFirst
    have secondListed : id ∈ graph.idsAt ⟨node, direction, second⟩ := by
      rw [idsAt_natCast, List.getElem?_eq_getElem secondInside]
      exact atSecond
    have same := consistent.port_unique firstListed secondListed rfl
    rw [Port.mk.injEq] at same
    omega

/-- No check of the recorded ends finds anything. -/
theorem edgeProblems_eq (consistent : graph.Consistent) : graph.edgeProblems = .ok [] := by
  have each : ∀ entry ∈ graph.links.entries, (do
      let source ← graph.endProblem? entry.1 entry.2 .outgoing
      let target ← graph.endProblem? entry.1 entry.2 .incoming
      pure (source.toList ++ target.toList) : Outcome (List EdgeProblem)) = .ok ((fun _ => []) entry) := by
    intro entry member
    have found := (graph.links.get?_eq_some_iff entry.1 entry.2).2 member
    rw [endProblem?_of_mem (consistent.mem_idsAt found .outgoing),
      endProblem?_of_mem (consistent.mem_idsAt found .incoming)]
    rfl
  rw [edgeProblems, Outcome.mapM_of_forall each]
  simp

end Consistent

theorem consistent_empty : empty.Consistent where
  vacant index slot get := by cases get
  free_nodup := List.nodup_nil
  free_iff index := by simp [empty]
  nodeCount_eq := rfl
  listed_iff id port := by
    rw [idsAt_empty]
    constructor
    · intro listed
      cases listed
    · rintro ⟨link, found, -⟩
      cases found
  distinct port := by
    rw [idsAt_empty]
    exact List.nodup_nil
  fresh id link found := by cases found

theorem length_nodes_of_contains {graph new : PortGraph} (same : ∀ node, new.contains node = graph.contains node) :
    new.nodes.length = graph.nodes.length := by
  apply List.Perm.length_eq
  rw [List.perm_ext_iff_of_nodup new.nodup_nodes graph.nodup_nodes]
  intro node
  rw [mem_nodes, mem_nodes, same]

end NestedFlow.PortGraph
