import NestedFlow.Extension.Standard
import NestedFlow.Proofs.Program.Accepted

/-! The order of the children of accepted dataflow regions.

The children of a region can be ordered along the value and order edges that join them. A copyable value may also go
into a region further inside, and there it does not order the children: `orderedChildren` of `entering` puts the region
that the value enters before the node that the value comes from.
-/

set_option autoImplicit false

namespace NestedFlow.Program

open Hierarchy Report

/-- What an order of the children of a region has to do with the value and order edges of the children: those that end
at a child go forward, and others carry a copyable value to a node inside a child. -/
structure OrderedAlong (program : Program) (region : Node) (order : List Node) : Prop where
  permutes : ∃ children, program.children region = .ok children ∧ order.Perm children
  forward : ∀ edge ∈ program.graph.allEdges, edge.kind = .value ∨ edge.kind = .order →
    edge.source.node ∈ order → edge.target.node ∈ order →
      edge.source.node ≠ edge.target.node ∧ order.idxOf edge.source.node < order.idxOf edge.target.node
  entering : ∀ edge ∈ program.graph.allEdges, edge.kind = .value ∨ edge.kind = .order →
    edge.source.node ∈ order → edge.target.node ∉ order → edge.kind = .value ∧
      (∃ kind, program.portKind? edge.source = .ok (some kind) ∧ kind.type.any (fun type => !type.isLinear) = true) ∧
      ∃ child ∈ order, ∃ below, program.descendants child = .ok below ∧ edge.target.node ∈ below

namespace AgreesOn

variable {program : Program} {kids : Node → List Node}

/-- Without a cycle there is an order of the children along the edges between them. -/
theorem exists_order (agrees : program.AgreesOn kids) {region : Node} (live : program.graph.contains region = true)
    (acyclic : ¬ ∃ node, Relation.TransGen (Feeds program kids region) node node) :
    ∃ order, program.orderedChildren region = .ok order ∧ order.Perm (kids region) ∧
      ∀ source target, Feeds program kids region source target → order.idxOf source < order.idxOf target := by
  obtain ⟨pairs, asked, related⟩ := agrees.exists_dependencies live
  have among : ∀ pair ∈ pairs, pair.1 ∈ kids region ∧ pair.2 ∈ kids region := by
    intro pair mem
    obtain ⟨isSource, isTarget, -⟩ := (related pair.1 pair.2).1 mem
    exact ⟨isSource, isTarget⟩
  have feeds : (DependencyGraph.ofEdges pairs (kids region)).successors.Feeds = Feeds program kids region := by
    funext source target
    rw [DependencyGraph.feeds_ofEdges, related]
  rcases Successors.topologicalOrder_cases (DependencyGraph.ofEdges pairs (kids region)).successors with
    ⟨order, found, distinct, members, along⟩ | ⟨-, cycle⟩
  · refine ⟨order, ?_, ?_, fun source target held => along source target (by rwa [feeds])⟩
    · rw [orderedChildren, asked, Outcome.ok_bind, DependencyGraph.topologicalOrder, found]
      rfl
    · rw [List.perm_ext_iff_of_nodup distinct (agrees.stores.distinct region)]
      intro node
      rw [members, DependencyGraph.mentions_ofEdges among]
  · rw [feeds] at cycle
    exact absurd cycle acyclic

/-- The children of an accepted dataflow region do not depend on themselves. -/
theorem acyclic_of_accepted (agrees : program.AgreesOn kids) {registry : Registry} {requirements : Bool}
    (accepted : (program.validate registry requirements).Empty) {region : Node} {op : Op}
    (isRegion : program.ops.get? region = some op) (dataflow : op.childRules = .dataflow) :
    ¬ ∃ node, Relation.TransGen (Feeds program kids region) node node := by
  have live := agrees.contains_of_get? isRegion
  obtain ⟨-, children, -, -⟩ := agrees.nodeReport_of_accepted accepted isRegion
  obtain ⟨some, parts⟩ := (agrees.empty_childrenReport_iff live).1 children
  rw [dataflow] at some parts
  cases listed : kids region with
  | nil => cases some listed
  | cons first rest =>
    obtain ⟨-, -, -, acyclic, -⟩ := parts first rest listed OpTag.noConfusion
    exact (agrees.empty_acyclicReport_iff live).1 (acyclic rfl)

/-- An edge from a child of a region to a node that is no child of it carries a copyable value further inside. -/
theorem Local.entering {edge : Edge} {type : Option PortType} {region : Node} (agrees : program.AgreesOn kids)
    (nearby : Local program kids edge type) (kind : edge.kind = .value ∨ edge.kind = .order)
    (isChild : edge.source.node ∈ kids region) (outside : edge.target.node ∉ kids region) :
    edge.kind = .value ∧ type.any (fun type => !type.isLinear) = true ∧
      ∃ child ∈ kids region, edge.target.node ∈ program.hierarchy.descendants child := by
  obtain ⟨parent, sourceChild, nearby⟩ := nearby
  obtain rfl := agrees.stores.parent_unique isChild sourceChild
  rcases kind with kind | kind <;> rw [kind] at nearby
  · rcases nearby with sibling | ⟨copyable, inside⟩
    · exact absurd sibling outside
    · -- the path down to the target begins with a child of the region
      obtain ⟨child, holds, further⟩ := Relation.TransGen.head'_iff.1 inside
      refine ⟨kind, copyable, child, holds, agrees.stores.mem_descendants.2 ?_⟩
      exact (Relation.reflTransGen_iff_eq_or_transGen.1 further).imp id id
  · exact absurd nearby outside

end AgreesOn

/-- In an accepted program the children of a dataflow region have an order along the edges between them. -/
theorem orders_children {program : Program} (reachable : Reachable program) {registry : Registry}
    (accepted : program.validate registry false = .ok []) {region : Node} {op : Op}
    (isRegion : program.op region = .ok op) (dataflow : op.childRules = .dataflow) :
    ∃ order, program.orderedChildren region = .ok order ∧ program.OrderedAlong region order := by
  have agrees : program.AgreesOn program.hierarchy.children := reachable.consistent
  rw [agrees.op_eq_ok_iff] at isRegion
  have live := agrees.contains_of_get? isRegion
  obtain ⟨order, found, permutes, along⟩ :=
    agrees.exists_order live (agrees.acyclic_of_accepted accepted isRegion dataflow)
  refine ⟨order, found, ⟨⟨_, agrees.children_eq live, permutes⟩, ?_, ?_⟩⟩
  · intro edge mem kind fromChild toChild
    obtain ⟨⟨id, link⟩, member, rfl⟩ := List.mem_map.1 mem
    have recorded := (Table.get?_eq_some_iff _ id link).2 member
    have feeds : AgreesOn.Feeds program program.hierarchy.children region link.source link.target :=
      ⟨permutes.mem_iff.1 fromChild, permutes.mem_iff.1 toChild, link.edge id,
        agrees.graph.mem_edgesOf.2 ⟨link, recorded, rfl, rfl⟩, kind, rfl⟩
    have earlier := along link.source link.target feeds
    refine ⟨fun same => ?_, earlier⟩
    have same : link.source = link.target := same
    rw [same] at earlier
    exact lt_irrefl _ earlier
  · intro edge mem kind fromChild outside
    obtain ⟨⟨id, link⟩, member, rfl⟩ := List.mem_map.1 mem
    have recorded := (Table.get?_eq_some_iff _ id link).2 member
    obtain ⟨source, -, start, -, atSource, -, isStart, -, -, -, -, nearby⟩ :=
      agrees.joined_of_accepted accepted recorded
    obtain ⟨isValue, copyable, child, isChild, inside⟩ := nearby.entering agrees kind (permutes.mem_iff.1 fromChild)
      fun isChild => outside (permutes.mem_iff.2 isChild)
    refine ⟨isValue, ⟨start, ?_, copyable⟩, child, permutes.mem_iff.2 isChild, _, ?_, inside⟩
    · rw [agrees.portKind?_eq atSource, isStart]
    · exact agrees.descendants_eq (agrees.kids_live region child isChild).1

/-- A region in which a value from the second to last node enters the region before it. -/
def entering : Program :=
  (ofRoot (.dfg [Standard.usize] [] none)).edited [
    .addChild ⟨0, 0⟩ (.input [Standard.usize]),
    .addChild ⟨0, 0⟩ (.output []),
    .addChild ⟨0, 0⟩ (.dfg [] [] none),
    .addChild ⟨3, 0⟩ (.input []),
    .addChild ⟨3, 0⟩ (.output []),
    .addChild ⟨3, 0⟩ (.noop Standard.usize),
    .addChild ⟨0, 0⟩ (.noop Standard.usize),
    .connect ⟨1, 0⟩ 0 ⟨7, 0⟩ 0,
    .connect ⟨7, 0⟩ 0 ⟨6, 0⟩ 0,
    .addOrder ⟨3, 0⟩ ⟨2, 0⟩]

theorem orders_children_entering :
    entering.validate .prelude false = .ok [] ∧ entering.op ⟨0, 0⟩ = .ok (.dfg [Standard.usize] [] none) ∧
      (Op.dfg [Standard.usize] [] none).childRules = .dataflow ∧
      ∃ order, entering.orderedChildren ⟨0, 0⟩ = .ok order ∧ entering.OrderedAlong ⟨0, 0⟩ order := by
  have reachable : Reachable entering := (Reachable.ofRoot _).edits _
  have accepted : entering.validate .prelude false = .ok [] := by decide +kernel
  have isRegion : entering.op ⟨0, 0⟩ = .ok (.dfg [Standard.usize] [] none) := by with_unfolding_all rfl
  exact ⟨accepted, isRegion, rfl, orders_children reachable accepted isRegion rfl⟩

/-- A node whose value goes into a region need not come before the region. -/
theorem entered_too_early :
    Reachable entering ∧ entering.validate .prelude false = .ok [] ∧
      entering.op ⟨0, 0⟩ = .ok (.dfg [Standard.usize] [] none) ∧
      ¬ ∃ order, entering.orderedChildren ⟨0, 0⟩ = .ok order ∧ ∀ edge ∈ entering.graph.allEdges,
        edge.kind = .value ∨ edge.kind = .order → edge.source.node ∈ order → ∀ child ∈ order, ∀ below,
          entering.descendants child = .ok below → edge.target.node ∈ below →
            edge.source.node ≠ child ∧ order.idxOf edge.source.node < order.idxOf child := by
  refine ⟨(Reachable.ofRoot _).edits _, by decide +kernel, by with_unfolding_all rfl, ?_⟩
  rintro ⟨order, found, forward⟩
  have listed : entering.orderedChildren ⟨0, 0⟩ = .ok [⟨1, 0⟩, ⟨3, 0⟩, ⟨7, 0⟩, ⟨2, 0⟩] := by with_unfolding_all rfl
  have below : entering.descendants ⟨3, 0⟩ = .ok [⟨3, 0⟩, ⟨4, 0⟩, ⟨5, 0⟩, ⟨6, 0⟩] := by with_unfolding_all rfl
  have edge : (⟨1, ⟨⟨7, 0⟩, .outgoing, 0⟩, ⟨⟨6, 0⟩, .incoming, 0⟩, .value⟩ : Edge) ∈ entering.graph.allEdges := by
    decide +kernel
  rw [listed, Except.ok.injEq] at found
  subst found
  -- the region stands at the second place, and the node at the third
  have earlier := (forward _ edge (.inl rfl) (by decide) ⟨3, 0⟩ (by decide) _ below (by decide)).2
  exact absurd earlier (by decide)

end NestedFlow.Program
