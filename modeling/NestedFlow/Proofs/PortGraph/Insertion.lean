import NestedFlow.Proofs.PortGraph.Identity

/-! Inserted ports.

An inserted port takes the ports from its place on one further, together with the recorded ends of their edges, and
changes nothing else. Its removal takes them back, so that the graph is the one from before.
-/

set_option autoImplicit false

namespace NestedFlow

/-! ### Moved ends -/

namespace Port

variable {port : Port} {node : Node} {direction : Direction} {first again : Nat} {distance returned : Int}

theorem node_shifted : (port.shifted node direction first distance).node = port.node := by
  rw [shifted]
  split <;> rfl

theorem offset_shifted :
    (port.shifted node direction first distance).offset =
      if port.node = node ∧ port.direction = direction ∧ first ≤ port.offset then port.offset + distance
      else port.offset := by
  by_cases here : port.node = node ∧ port.direction = direction
  · simp only [shifted, here, and_self, true_and, if_true, place]
  · have elsewhere : ¬ (port.node = node ∧ port.direction = direction ∧ first ≤ port.offset) :=
      fun moved => here ⟨moved.1, moved.2.1⟩
    rw [shifted, if_neg here, if_neg elsewhere]

theorem shifted_shifted (back : ∀ offset, place again returned (place first distance offset) = offset) :
    (port.shifted node direction first distance).shifted node direction again returned = port := by
  by_cases here : port.node = node ∧ port.direction = direction
  · simp only [shifted, if_pos here, back]
  · simp only [shifted, if_neg here]

end Port

namespace Link

variable {link : Link} {node : Node} {direction : Direction} {first again : Nat} {distance returned : Int}

theorem ext_port {left right : Link} (ends : ∀ side, left.port side = right.port side)
    (kinds : left.kind = right.kind) : left = right := by
  have source := ends .outgoing
  have target := ends .incoming
  cases left
  cases right
  simp_all [Link.port, Link.node, Link.offset]

theorem kind_shifted : (link.shifted node direction first distance).kind = link.kind := by
  rw [shifted]
  split
  · cases direction <;> rw [shift] <;> split <;> rfl
  · rfl

theorem node_shifted (side : Direction) : (link.shifted node direction first distance).node side = link.node side := by
  rw [← port_node, port_shifted, Port.node_shifted, port_node]

/-- Only an end at that node and on that side is moved, and only if it is not before the place of the change. -/
theorem offset_shifted (side : Direction) :
    (link.shifted node direction first distance).offset side =
      if link.node side = node ∧ side = direction ∧ first ≤ link.offset side then link.offset side + distance
      else link.offset side := by
  change ((link.shifted node direction first distance).port side).offset = _
  rw [port_shifted, Port.offset_shifted]
  rfl

theorem shifted_shifted (back : ∀ offset, place again returned (place first distance offset) = offset) :
    (link.shifted node direction first distance).shifted node direction again returned = link := by
  refine ext_port (fun side => ?_) ?_
  · rw [port_shifted, port_shifted, Port.shifted_shifted back]
  · rw [kind_shifted, kind_shifted]

end Link

namespace Slot

theorem withPorts_withPorts (slot : Slot) (direction : Direction) (ports : List (List Nat))
    (change : List (List Nat) → List (List Nat)) :
    (slot.withPorts direction ports).withPorts direction (change ((slot.withPorts direction ports).ports direction)) =
      slot.withPorts direction (change ports) := by
  cases direction <;> rfl

theorem withPorts_ports (slot : Slot) (direction : Direction) :
    slot.withPorts direction (slot.ports direction) = slot := by
  cases direction <;> rfl

end Slot

namespace PortGraph

/-! ### Renumbering there and back -/

section

variable {graph : PortGraph} {node : Node} {direction : Direction} {change undo : List (List Nat) → List (List Nat)}
  {first again : Nat} {distance returned : Int}

theorem keys_renumbered : (graph.renumbered node direction change first distance).links.keys = graph.links.keys :=
  Table.keys_foldl_modify (fun _ (link : Link) => link.shift node direction distance) graph.links

theorem portsOf_renumbered (live : graph.contains node = true) (other : Node) (side : Direction) :
    (graph.renumbered node direction change first distance).portsOf other side =
      if other = node ∧ side = direction then change (graph.portsOf node direction) else graph.portsOf other side :=
  portsOf_withPorts direction change live other side

theorem contains_renumbered (live : graph.contains node = true) (other : Node) :
    (graph.renumbered node direction change first distance).contains other = graph.contains other :=
  contains_withPorts direction change live other

theorem withPorts_withPorts (undone : ∀ ports, undo (change ports) = ports) :
    (graph.withPorts node direction change).withPorts node direction undo = graph := by
  have slots : (graph.slots.modify node.index.toNat fun slot =>
        slot.withPorts direction (change (slot.ports direction))).modify node.index.toNat
      (fun slot => slot.withPorts direction (undo (slot.ports direction))) = graph.slots := by
    rw [List.modify_modify_eq]
    have same : ((fun slot : Slot => slot.withPorts direction (undo (slot.ports direction))) ∘
        fun slot => slot.withPorts direction (change (slot.ports direction))) = id := by
      funext slot
      rw [Function.comp_apply, Slot.withPorts_withPorts, undone, Slot.withPorts_ports, id]
    rw [same, List.modify_id]
  rw [withPorts, setSlot, withPorts, setSlot, slots]

/-- The ports and their edges are where they were if the second change takes each of them back. -/
theorem Consistent.renumbered_renumbered (consistent : graph.Consistent) (live : graph.contains node = true)
    (moves : Moves change (graph.portsOf node direction) first distance)
    (undone : ∀ ports, undo (change ports) = ports)
    (back : ∀ offset, place again returned (place first distance offset) = offset) :
    (graph.renumbered node direction change first distance).renumbered node direction undo again returned = graph := by
  have between := consistent.renumbered live moves
  have links : ((graph.renumbered node direction change first distance).renumbered node direction undo again
      returned).links = graph.links := by
    -- neither change adds a record or drops one, so they stand in the same order
    apply Table.ext_get?
    · rw [keys_renumbered, keys_renumbered]
    · intro id
      rw [between.links_renumbered, consistent.links_renumbered]
      cases graph.links.get? id with
      | none => rfl
      | some link => rw [Option.map_some, Option.map_some, Link.shifted_shifted back]
  calc (graph.renumbered node direction change first distance).renumbered node direction undo again returned
      = { (graph.withPorts node direction change).withPorts node direction undo with
          links := ((graph.renumbered node direction change first distance).renumbered node direction undo again
            returned).links } := rfl
    _ = graph := by rw [withPorts_withPorts undone, links]

end

/-! ### One port more -/

/-- The second graph has an unlinked port more on one side of a node, and differs in nothing else. -/
structure Opens (graph new : PortGraph) (node : Node) (direction : Direction) (offset : Nat) : Prop where
  numPorts : ∀ count, graph.numPorts node direction = .ok count → new.numPorts node direction = .ok (count + 1)
  before : ∀ position : Nat, position < offset →
    new.idsAt ⟨node, direction, position⟩ = graph.idsAt ⟨node, direction, position⟩
  here : new.idsAt ⟨node, direction, offset⟩ = []
  after : ∀ position : Nat, offset < position →
    new.idsAt ⟨node, direction, position⟩ = graph.idsAt ⟨node, direction, position - 1⟩
  others : ∀ other side, ¬ (other = node ∧ side = direction) → new.portsOf other side = graph.portsOf other side
  edges : new.links.keys = graph.links.keys
  moved : ∀ id link, graph.links.get? id = some link → ∃ follower, new.links.get? id = some follower ∧
    follower.kind = link.kind ∧ ∀ side, follower.node side = link.node side ∧
      follower.offset side =
        if link.node side = node ∧ side = direction ∧ offset ≤ link.offset side then link.offset side + 1
        else link.offset side
  contains : ∀ other, new.contains other = graph.contains other
  free : new.free = graph.free
  nodeCount : new.nodeCount = graph.nodeCount
  nextEdge : new.nextEdge = graph.nextEdge

section

variable {graph : PortGraph} {node : Node} {direction : Direction} {offset : Nat}

theorem portsOf_opened (live : graph.contains node = true) (other : Node) (side : Direction) :
    (graph.opened node direction offset).portsOf other side =
      if other = node ∧ side = direction then (graph.portsOf node direction).insertIdx offset []
      else graph.portsOf other side := portsOf_renumbered live other side

variable (consistent : graph.Consistent) (live : graph.contains node = true)
  (inside : offset ≤ (graph.portsOf node direction).length)

include consistent live inside

theorem Consistent.opens : graph.Opens (graph.opened node direction offset) node direction offset := by
  have own : (graph.opened node direction offset).portsOf node direction =
      (graph.portsOf node direction).insertIdx offset [] := by rw [portsOf_opened live, if_pos ⟨rfl, rfl⟩]
  have nodes : ∀ other, (graph.opened node direction offset).contains other = graph.contains other :=
    contains_renumbered live
  refine ⟨?numPorts, ?before, ?here, ?after, ?others, keys_renumbered, ?moved, nodes, rfl, rfl, rfl⟩
  case numPorts =>
    intro count counted
    rw [numPorts_of_contains live, Except.ok.injEq] at counted
    rw [numPorts_of_contains ((nodes node).trans live), own, List.length_insertIdx_of_le_length inside, counted]
  case before =>
    intro position earlier
    rw [idsAt_natCast, own, List.getElem?_insertIdx_of_lt earlier, idsAt_natCast]
  case here =>
    rw [idsAt_natCast, own, List.getElem?_insertIdx_self, if_pos inside, Option.getD_some]
  case after =>
    intro position later
    have before : (position : Int) - 1 = (position - 1 : Nat) := by omega
    rw [idsAt_natCast, own, List.getElem?_insertIdx_of_gt later, before, idsAt_natCast]
  case others =>
    intro other side elsewhere
    rw [portsOf_opened live, if_neg elsewhere]
  case moved =>
    intro id link found
    refine ⟨link.shifted node direction offset 1, ?_, Link.kind_shifted, fun side => ?_⟩
    · rw [PortGraph.opened, consistent.links_renumbered, found, Option.map_some]
    · exact ⟨Link.node_shifted side, Link.offset_shifted side⟩

theorem Consistent.closed_opened : (graph.opened node direction offset).closed node direction offset = graph := by
  refine consistent.renumbered_renumbered live (moves_insertIdx inside) (fun ports => ?_) fun moved => ?_
  · exact List.eraseIdx_insertIdx_self []
  · rw [place, place]
    split <;> split <;> omega

/-- The new port is unlinked, so it can be removed again. -/
theorem Consistent.run_removePort_opened :
    (removePort node direction offset).run (graph.opened node direction offset) = .ok () graph := by
  have has : PortGraph.HasPort (graph.opened node direction offset) ⟨node, direction, offset⟩ := by
    rw [HasPort, portsOf_opened live, if_pos ⟨rfl, rfl⟩, List.length_insertIdx_of_le_length inside]
    exact ⟨Int.natCast_nonneg offset, Int.ofNat_lt.2 (Nat.lt_succ_of_le inside)⟩
  rw [run_removePort (consistent.opened live inside) has (consistent.opens live inside).here,
    consistent.closed_opened live inside]

end

/-- In a graph that edits have built, inserting a port moves the ports from its place on and their edges by one, and
removing it again restores the graph. -/
theorem opens_and_closes {edits : List Edit} {node : Node} {direction : Direction} {count offset : Nat}
    (counted : (afterEdits edits).numPorts node direction = .ok count) (inside : offset ≤ count) :
    ∃ new, (insertPort node direction offset).run (afterEdits edits) = .ok ⟨node, direction, offset⟩ new ∧
      (afterEdits edits).Opens new node direction offset ∧
        (removePort node direction offset).run new = .ok () (afterEdits edits) := by
  have consistent := Consistent.of_edits edits
  obtain ⟨slot, found, -⟩ := Outcome.bind_eq_ok_iff.1 counted
  have live := contains_iff.2 ⟨slot, slot_eq_ok_iff.1 found⟩
  rw [numPorts_of_contains live, Except.ok.injEq] at counted
  rw [← counted] at inside
  exact ⟨_, run_insertPort consistent live inside, consistent.opens live inside,
    consistent.run_removePort_opened live inside⟩

/-- A node with two edges from its second output to its second input, and one edge to another node. -/
def looping : List Edit := [
  .addNode 2 2, .addNode 1 0,
  .connect ⟨⟨0, 0⟩, .outgoing, 1⟩ ⟨⟨0, 0⟩, .incoming, 1⟩ .value,
  .connect ⟨⟨0, 0⟩, .outgoing, 1⟩ ⟨⟨0, 0⟩, .incoming, 1⟩ .order,
  .connect ⟨⟨0, 0⟩, .outgoing, 0⟩ ⟨⟨1, 0⟩, .incoming, 0⟩ .value]

theorem opens_and_closes_looping :
    ∃ new, (insertPort ⟨0, 0⟩ .outgoing (1 : Nat)).run (afterEdits looping) = .ok ⟨⟨0, 0⟩, .outgoing, 1⟩ new ∧
      (afterEdits looping).Opens new ⟨0, 0⟩ .outgoing 1 ∧
        (removePort ⟨0, 0⟩ .outgoing (1 : Nat)).run new = .ok () (afterEdits looping) := by
  have counted : (afterEdits looping).numPorts ⟨0, 0⟩ .outgoing = .ok 2 := rfl
  exact opens_and_closes counted (by decide)

end PortGraph

end NestedFlow
