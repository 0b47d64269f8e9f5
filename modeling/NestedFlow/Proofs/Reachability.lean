import NestedFlow.Proofs.Dependency

/-! Reachability in finite directed graphs, forwards and backwards.

A search works off a stack, on which nodes may stand repeatedly and after they were visited. All that is fed by a
visited node is visited or on the stack. So in the end the visited nodes are those to which a path leads from the
stack, and the search ends because a node adds its targets to the stack only once.
-/

set_option autoImplicit false

namespace NestedFlow.Successors

variable {α : Type} [DecidableEq α] {graph : Successors α}

/-- How a search works off its stack, and what it has visited in the end. -/
inductive Searches (graph : Successors α) : List α → List α → List α → Prop where
  | done {visited : List α} : Searches graph [] visited visited
  | skip {node : α} {stack visited result : List α} (known : node ∈ visited)
      (further : Searches graph stack visited result) : Searches graph (node :: stack) visited result
  | expand {node : α} {stack visited result : List α} (fresh : node ∉ visited)
      (further : Searches graph (graph.targets node ++ stack) (node :: visited) result) :
    Searches graph (node :: stack) visited result

/-- A search has come to its end before its steps run out if there are more of them than nodes on the stack and edges
from nodes that are not visited. -/
theorem searches_visit {steps : Nat} {stack visited : List α}
    (enough : stack.length + ((graph.keys.filter fun key => key ∉ visited).flatMap graph.targets).length < steps) :
    graph.Searches stack visited (graph.visit steps stack visited) := by
  induction steps generalizing stack visited with
  | zero => omega
  | succ steps ih =>
    cases stack with
    | nil => exact .done
    | cons node stack =>
      rw [visit]
      by_cases known : node ∈ visited
      · rw [if_pos known]
        refine .skip known (ih ?_)
        simp only [List.length_cons] at enough
        omega
      · rw [if_neg known]
        refine .expand known (ih ?_)
        -- the targets of the node are on the stack now, and no longer ahead
        have left := (@perm_left α _ graph visited (node :: visited) node known fun key => List.mem_cons).length_eq
        simp only [List.length_append, List.length_cons] at enough left ⊢
        omega

/-- The search of all that the given nodes feed comes to its end. -/
theorem searches_reachable (graph : Successors α) (starts : List α) :
    graph.Searches (starts.flatMap graph.targets) [] (graph.reachable starts) := by
  apply searches_visit
  simp [values_eq, List.flatMap_def]

theorem Searches.nodup {stack visited result : List α} (searches : graph.Searches stack visited result)
    (distinct : visited.Nodup) : result.Nodup := by
  induction searches with
  | done => exact distinct
  | skip _ _ ih => exact ih distinct
  | expand fresh _ ih => exact ih (List.nodup_cons.2 ⟨fresh, distinct⟩)

/-- Whatever a visited node feeds is visited or on the stack. -/
def Covered (graph : Successors α) (stack visited : List α) : Prop :=
  ∀ source ∈ visited, ∀ target, graph.Feeds source target → target ∈ visited ∨ target ∈ stack

/-- A path from a visited node leads to visited nodes only, or through the stack. -/
theorem Covered.of_path {stack visited : List α} (covered : graph.Covered stack visited) {source target : α}
    (path : Relation.ReflTransGen graph.Feeds source target) (known : source ∈ visited) :
    target ∈ visited ∨ ∃ start ∈ stack, Relation.ReflTransGen graph.Feeds start target := by
  induction path using Relation.ReflTransGen.head_induction_on with
  | refl => exact .inl known
  | head feeds further ih =>
    rcases covered _ known _ feeds with visited | pending
    · exact ih visited
    · exact .inr ⟨_, pending, further⟩

/-- A search adds to the visited nodes exactly those to which a path leads from the stack. -/
theorem Searches.mem_iff {stack visited result : List α} (searches : graph.Searches stack visited result)
    (covered : graph.Covered stack visited) {node : α} :
    node ∈ result ↔ node ∈ visited ∨ ∃ start ∈ stack, Relation.ReflTransGen graph.Feeds start node := by
  induction searches with
  | done => simp
  | @skip first stack visited result known _ ih =>
    have rest : graph.Covered stack visited := by
      intro source isVisited target feeds
      rcases covered source isVisited target feeds with visited | pending
      · exact .inl visited
      · rcases List.mem_cons.1 pending with rfl | later
        · exact .inl known
        · exact .inr later
    rw [ih rest, List.exists_mem_cons_iff]
    constructor
    · rintro (visited | path)
      · exact .inl visited
      · exact .inr (.inr path)
    · rintro (visited | path | path)
      · exact .inl visited
      · exact rest.of_path path known
      · exact .inr path
  | @expand first stack visited result fresh _ ih =>
    have rest : graph.Covered (graph.targets first ++ stack) (first :: visited) := by
      intro source isVisited target feeds
      rcases List.mem_cons.1 isVisited with rfl | earlier
      · exact .inr (List.mem_append_left stack feeds)
      · rcases covered source earlier target feeds with visited | pending
        · exact .inl (List.mem_cons_of_mem first visited)
        · rcases List.mem_cons.1 pending with rfl | later
          · exact .inl List.mem_cons_self
          · exact .inr (List.mem_append_right _ later)
    rw [ih rest, List.exists_mem_cons_iff]
    -- a path from the expanded node stays there or begins with one of its targets
    have split : Relation.ReflTransGen graph.Feeds first node ↔
        node = first ∨ ∃ target ∈ graph.targets first, Relation.ReflTransGen graph.Feeds target node := by
      rw [Relation.ReflTransGen.cases_head_iff, eq_comm]
      rfl
    rw [split, List.mem_cons]
    simp only [List.mem_append, or_and_right, exists_or, or_assoc]
    exact or_left_comm

/-- What is reachable from some nodes are the ends of nonempty paths from them, so that a node is reachable from itself
only if it lies on a cycle. -/
theorem mem_reachable {starts : List α} {node : α} :
    node ∈ graph.reachable starts ↔ ∃ start ∈ starts, Relation.TransGen graph.Feeds start node := by
  rw [(graph.searches_reachable starts).mem_iff (fun source visited => nomatch visited)]
  simp only [List.not_mem_nil, false_or, List.mem_flatMap, Relation.TransGen.head'_iff]
  constructor
  · rintro ⟨target, ⟨start, mem, feeds⟩, path⟩
    exact ⟨start, mem, target, feeds, path⟩
  · rintro ⟨start, mem, target, feeds, path⟩
    exact ⟨target, ⟨start, mem, feeds⟩, path⟩

end NestedFlow.Successors

namespace NestedFlow.DependencyGraph

open Successors

variable {α : Type} [DecidableEq α]

/-! ### Both directions -/

/-- The graph with its two directions exchanged. -/
def reverse (graph : DependencyGraph α) : DependencyGraph α := ⟨graph.predecessors, graph.successors⟩

/-- The reversed edges make up the reversed graph. -/
theorem reverse_ofEdges (edges : List (α × α)) (nodes : List α) :
    (ofEdges edges nodes).reverse = ofEdges (edges.map Prod.swap) nodes := by
  have added : ∀ (nodes : List α) (graph : DependencyGraph α),
      (nodes.foldl addNode graph).reverse = nodes.foldl addNode graph.reverse := by
    intro nodes
    induction nodes with
    | nil => exact fun _ => rfl
    | cons node rest ih => exact fun graph => ih (graph.addNode node)
  have joined : ∀ (edges : List (α × α)) (graph : DependencyGraph α),
      (edges.foldl addEdge graph).reverse = (edges.map Prod.swap).foldl addEdge graph.reverse := by
    intro edges
    induction edges with
    | nil => exact fun _ => rfl
    | cons edge rest ih => exact fun graph => ih (graph.addEdge edge)
  rw [ofEdges, joined, added]
  rfl

theorem predecessors_ofEdges (edges : List (α × α)) (nodes : List α) :
    (ofEdges edges nodes).predecessors = (ofEdges (edges.map Prod.swap) nodes).successors :=
  congrArg successors (reverse_ofEdges edges nodes)

theorem fedBy_ofEdges {edges : List (α × α)} {nodes : List α} {source target : α} :
    (ofEdges edges nodes).predecessors.Feeds target source ↔ (source, target) ∈ edges := by
  rw [predecessors_ofEdges, feeds_ofEdges]
  simp

/-- The graph of some edges has their two directions over the same nodes, and reachability in either direction is that
along paths of the edges. -/
structure Relates (graph : DependencyGraph α) (edges : List (α × α)) (nodes : List α) : Prop where
  mem_nodes : ∀ node, node ∈ graph.nodes ↔ node ∈ nodes ∨ ∃ edge ∈ edges, node = edge.1 ∨ node = edge.2
  sameNodes : ∀ node, node ∈ graph.predecessors.keys ↔ node ∈ graph.nodes
  feeds : ∀ source target, target ∈ graph.successors.targets source ↔ (source, target) ∈ edges
  converse : ∀ source target,
    source ∈ graph.predecessors.targets target ↔ target ∈ graph.successors.targets source
  descendants_iff : ∀ start node, node ∈ graph.descendants start ↔
    Relation.TransGen (fun source target => (source, target) ∈ edges) start node
  ancestors_iff : ∀ first second, second ∈ graph.descendants first ↔ first ∈ graph.ancestors second
  distinct : ∀ node, (graph.descendants node).Nodup ∧ (graph.ancestors node).Nodup
  /-- Both searches come to their end, even on cycles. -/
  ends : ∀ start, graph.successors.Searches (graph.successors.targets start) [] (graph.descendants start) ∧
    graph.predecessors.Searches (graph.predecessors.targets start) [] (graph.ancestors start)

theorem mem_descendants_ofEdges {edges : List (α × α)} {nodes : List α} {start node : α} :
    node ∈ (ofEdges edges nodes).descendants start ↔
      Relation.TransGen (fun source target => (source, target) ∈ edges) start node := by
  have forwards : (ofEdges edges nodes).successors.Feeds = fun source target => (source, target) ∈ edges := by
    funext source target
    exact propext feeds_ofEdges
  rw [descendants, mem_reachable, forwards]
  simp

theorem mem_ancestors_ofEdges {edges : List (α × α)} {nodes : List α} {start node : α} :
    start ∈ (ofEdges edges nodes).ancestors node ↔
      Relation.TransGen (fun source target => (source, target) ∈ edges) start node := by
  have backwards : (ofEdges edges nodes).predecessors.Feeds =
      Function.swap fun source target => (source, target) ∈ edges := by
    funext target source
    exact propext fedBy_ofEdges
  rw [ancestors, mem_reachable, backwards]
  simp only [List.mem_singleton, exists_eq_left]
  exact Relation.transGen_swap

/-- The search from a single node begins with what the node feeds. -/
theorem searches_from (graph : Successors α) (start : α) :
    graph.Searches (graph.targets start) [] (graph.reachable [start]) := by
  simpa using graph.searches_reachable [start]

theorem relates_ofEdges (edges : List (α × α)) (nodes : List α) : (ofEdges edges nodes).Relates edges nodes where
  mem_nodes node := mem_keys_ofEdges
  sameNodes node := by
    rw [predecessors_ofEdges, DependencyGraph.nodes, mem_keys_ofEdges, mem_keys_ofEdges]
    apply or_congr_right
    constructor
    · rintro ⟨edge, mem, ends⟩
      obtain ⟨other, listed, rfl⟩ := List.mem_map.1 mem
      exact ⟨other, listed, ends.symm⟩
    · rintro ⟨edge, listed, ends⟩
      exact ⟨edge.swap, List.mem_map_of_mem listed, ends.symm⟩
  feeds source target := feeds_ofEdges
  converse source target := fedBy_ofEdges.trans feeds_ofEdges.symm
  descendants_iff start node := mem_descendants_ofEdges
  ancestors_iff first second := mem_descendants_ofEdges.trans mem_ancestors_ofEdges.symm
  distinct node := ⟨(searches_from _ node).nodup List.nodup_nil, (searches_from _ node).nodup List.nodup_nil⟩
  ends start := ⟨searches_from _ start, searches_from _ start⟩

end NestedFlow.DependencyGraph
