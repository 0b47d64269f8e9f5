import NestedFlow.Program.Validation
import NestedFlow.Proofs.Program.Reachable

/-! The structures of every reachable program agree, as it is seen through questions about them. -/

set_option autoImplicit false

namespace NestedFlow.Program

/-- The port graph, the hierarchy, the operations and the metadata of a program speak of the same nodes. -/
structure Agreement (program : Program) : Prop where
  ops : ∀ node, node ∈ program.ops.keys ↔ node ∈ program.graph.nodes
  metadata : ∀ node ∈ program.metadata.keys, node ∈ program.graph.nodes
  /-- The links of the hierarchy lead from live nodes to live nodes. -/
  links : ∀ table ∈ [program.hierarchy.parents, program.hierarchy.firsts, program.hierarchy.lasts,
      program.hierarchy.nexts, program.hierarchy.prevs],
    ∀ entry ∈ table.entries, entry.1 ∈ program.graph.nodes ∧ entry.2 ∈ program.graph.nodes
  counts : ∀ node ∈ program.hierarchy.counts.keys, node ∈ program.graph.nodes
  root_live : program.root ∈ program.graph.nodes
  root_top : program.hierarchy.parent? program.root = none
  ports : ∀ node ∈ program.graph.nodes, ∃ op, program.op node = .ok op ∧
    ∀ direction, program.graph.numPorts node direction = .ok (op.portCount direction)
  /-- From parent to parent, through live nodes and never twice through one. -/
  path : ∀ node ∈ program.graph.nodes,
    (node :: program.hierarchy.ancestors node).IsChain (fun child parent =>
      program.hierarchy.parent? child = some parent) ∧
    (node :: program.hierarchy.ancestors node).Nodup ∧
    ∀ above ∈ program.hierarchy.ancestors node, above ∈ program.graph.nodes
  /-- The path ends at a live node without a parent, which is the root or detached. -/
  path_end : ∀ node ∈ program.graph.nodes, program.hierarchy.top node ∈ program.graph.nodes ∧
    program.hierarchy.parent? (program.hierarchy.top node) = none
  integrity : program.integrityReport = .ok []

namespace AgreesOn

open Hierarchy

variable {program : Program} {kids : Node → List Node}

theorem isChain_walk {links : Table Node Node} {node : Node} {visited : List Node}
    (walk : Walk links (links.get? node) visited) :
    (node :: visited).IsChain (fun child parent => links.get? child = some parent) ∧
      links.get? ((visited.getLast?).getD node) = none := by
  generalize target : links.get? node = start at walk
  induction walk generalizing node with
  | done => exact ⟨.singleton node, target⟩
  | @step next rest further ih =>
    obtain ⟨chain, last⟩ := ih rfl
    refine ⟨.cons_cons target chain, ?_⟩
    rw [List.getLast?_cons, Option.getD_some]
    exact last

theorem mem_nodes_of_above (agrees : program.AgreesOn kids) {above node : Node} (path : Above kids above node) :
    program.graph.contains above = true := by
  obtain ⟨child, holds, -⟩ := Relation.TransGen.head'_iff.1 path
  exact (agrees.kids_live above child holds).2

theorem agreement (agrees : program.AgreesOn kids) : program.Agreement := by
  have adjacent : ∀ {first second : Node}, (∃ parent, Adjacent (kids parent) first second) →
      program.graph.contains first = true ∧ program.graph.contains second = true := by
    rintro first second ⟨parent, adjacent⟩
    exact ⟨(agrees.kids_live parent first adjacent.mem.1).1, (agrees.kids_live parent second adjacent.mem.2).1⟩
  have chain := fun node => isChain_walk (agrees.stores.walk_ancestors node)
  constructor
  case ops =>
    intro node
    rw [agrees.ops_iff, PortGraph.mem_nodes]
  case metadata =>
    intro node mem
    exact PortGraph.mem_nodes.2 (agrees.metadata_live node mem)
  case links =>
    intro table among entry mem
    rw [PortGraph.mem_nodes, PortGraph.mem_nodes]
    have get := (table.get?_eq_some_iff entry.1 entry.2).2 mem
    simp only [List.mem_cons, List.not_mem_nil, or_false] at among
    -- parents, firsts, lasts, nexts and prevs in turn
    rcases among with rfl | rfl | rfl | rfl | rfl
    · exact agrees.kids_live entry.2 entry.1 ((agrees.stores.parent_iff _ _).1 get)
    · rw [agrees.stores.first_eq] at get
      exact (agrees.kids_live entry.1 entry.2 (List.mem_of_head? get)).symm
    · rw [agrees.stores.last_eq] at get
      exact (agrees.kids_live entry.1 entry.2 (List.mem_of_getLast? get)).symm
    · exact adjacent ((agrees.stores.next_iff _ _).1 get)
    · exact (adjacent ((agrees.stores.prev_iff _ _).1 get)).symm
  case counts =>
    intro node mem
    obtain ⟨count, get⟩ := (Table.mem_keys_iff_get? _ node).1 mem
    rw [agrees.stores.count_eq] at get
    split at get
    · cases get
    · rename_i some
      obtain ⟨child, isChild⟩ := List.exists_mem_of_ne_nil _ some
      exact PortGraph.mem_nodes.2 (agrees.kids_live node child isChild).2
  case root_live => exact PortGraph.mem_nodes.2 agrees.root_live
  case root_top => exact (agrees.stores.parent?_eq_none_iff program.root).2 agrees.root_top
  case ports =>
    intro node mem
    have live := PortGraph.mem_nodes.1 mem
    obtain ⟨op, found⟩ := agrees.get?_of_contains live
    refine ⟨op, ?_, fun direction => ?_⟩
    · rw [Program.op, agrees.checkNode_eq_ok_iff.2 live, Outcome.ok_bind, entry_eq_ok_iff, found]
    · rw [PortGraph.numPorts_of_contains live, agrees.portTotals node op found]
  case path =>
    intro node mem
    refine ⟨(chain node).1, ?_, fun above isAbove => ?_⟩
    · rw [List.nodup_cons, agrees.stores.mem_ancestors]
      exact ⟨agrees.stores.not_above_self node, agrees.stores.nodup_ancestors node⟩
    · exact PortGraph.mem_nodes.2 (agrees.mem_nodes_of_above (agrees.stores.mem_ancestors.1 isAbove))
  case path_end =>
    intro node mem
    refine ⟨?_, (chain node).2⟩
    rw [top]
    cases last : (program.hierarchy.ancestors node).getLast? with
    | none => exact mem
    | some above =>
      exact PortGraph.mem_nodes.2
        (agrees.mem_nodes_of_above (agrees.stores.mem_ancestors.1 (List.mem_of_getLast? last)))
  case integrity =>
    rw [integrityReport, agrees.graph.edgeProblems_eq]
    rfl

end AgreesOn

/-- However a program was built and edited, its structures agree. -/
theorem structures_agree {program : Program} (reachable : Reachable program) : program.Agreement :=
  have agrees : program.AgreesOn program.hierarchy.children := reachable.consistent
  agrees.agreement

/-- A module with a constant that is added, described, and removed after a failing edit. -/
theorem structures_agree_constant :
    Agreement ((Edit.removeNode ⟨1, 0⟩).apply ((Edit.removeNode ⟨0, 0⟩).apply
      ((Edit.setMetadata ⟨1, 0⟩ "name" .null).apply ((Edit.addChild ⟨0, 0⟩ (.const (.tuple []) (.tuple []))).apply
        (ofRoot .moduleRoot))))) :=
  structures_agree (.edited (.edited (.edited (.edited (.ofRoot .moduleRoot) _) _) _) _)

end NestedFlow.Program
