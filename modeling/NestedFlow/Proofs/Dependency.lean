import Mathlib.Data.Fintype.Card
import Mathlib.Data.Fintype.EquivFin
import Mathlib.Data.Fintype.Sets
import Mathlib.Data.List.Count
import Mathlib.Logic.Relation
import Mathlib.Order.WellFounded
import NestedFlow.Dependency
import NestedFlow.Proofs.Outcome
import NestedFlow.Proofs.Table

/-! Orders of finite directed graphs: the nodes are emitted along the edges, and all of them are emitted unless some
lie on a cycle.

A node is counted down once for every edge from a node that is emitted. So its degree is always the number of edges
from nodes that are not emitted yet, and the queue holds the nodes without such edges.
-/

set_option autoImplicit false

namespace NestedFlow.Successors

variable {α : Type} [DecidableEq α] {graph : Successors α}

/-- An edge of the graph. -/
def Feeds (graph : Successors α) (source target : α) : Prop := target ∈ graph.targets source

/-- The nodes of the graph are the keys and the targets. -/
def Mentions (graph : Successors α) (node : α) : Prop := node ∈ graph.keys ∨ ∃ source, graph.Feeds source node

theorem mem_keys_of_feeds {source target : α} (feeds : graph.Feeds source target) : source ∈ graph.keys := by
  by_contra absent
  rw [Feeds, targets, Table.getD_eq, (Table.get?_eq_none_iff graph source).2 absent] at feeds
  cases feeds

theorem values_eq (graph : Successors α) : graph.values = graph.keys.map graph.targets := by
  rw [Table.values, Table.keys, List.map_map]
  apply List.map_congr_left
  rintro ⟨key, targets⟩ mem
  rw [Function.comp_apply, Successors.targets, Table.getD_eq, (Table.get?_eq_some_iff graph key targets).2 mem]
  rfl

/-- How many edges lead to a node from keys that are not among the given ones. -/
def waiting (graph : Successors α) (done : List α) (node : α) : Nat :=
  ((graph.keys.filter fun key => key ∉ done).flatMap graph.targets).count node

theorem waiting_nil (graph : Successors α) (node : α) : graph.waiting [] node = graph.values.flatten.count node := by
  rw [waiting, values_eq, List.flatMap_def, List.filter_eq_self.2]
  simp

theorem waiting_eq_zero_iff {done : List α} {node : α} :
    graph.waiting done node = 0 ↔ ∀ source, graph.Feeds source node → source ∈ done := by
  rw [waiting, List.count_eq_zero]
  simp only [List.mem_flatMap, List.mem_filter, decide_eq_true_eq, not_exists, not_and]
  constructor
  · intro none source feeds
    by_contra absent
    exact none source ⟨mem_keys_of_feeds feeds, absent⟩ feeds
  · rintro all source ⟨-, absent⟩ feeds
    exact absent (all source feeds)

/-- What the nodes that are left feed is what one of them feeds, and what the others feed. -/
theorem perm_left {done more : List α} {node : α} (fresh : node ∉ done)
    (grows : ∀ key, key ∈ more ↔ key = node ∨ key ∈ done) :
    ((graph.keys.filter fun key => key ∉ done).flatMap graph.targets).Perm
      (graph.targets node ++ (graph.keys.filter fun key => key ∉ more).flatMap graph.targets) := by
  by_cases isKey : node ∈ graph.keys
  · have perm : (graph.keys.filter fun key => key ∉ done).Perm
        (node :: graph.keys.filter fun key => key ∉ more) := by
      rw [List.perm_ext_iff_of_nodup (graph.nodup_keys.filter _)]
      · intro key
        simp only [List.mem_filter, List.mem_cons, decide_eq_true_eq, grows]
        grind
      · rw [List.nodup_cons]
        exact ⟨by simp [grows], graph.nodup_keys.filter _⟩
    simpa only [List.flatMap_cons] using perm.flatMap_right graph.targets
  · -- what is no key feeds nothing
    have none : graph.targets node = [] := by
      rw [targets, Table.getD_eq, (Table.get?_eq_none_iff graph node).2 isKey, Option.getD_none]
    have same : (graph.keys.filter fun key => key ∉ done) = graph.keys.filter fun key => key ∉ more := by
      apply List.filter_congr
      intro key mem
      have apart : key ≠ node := fun same => isKey (same ▸ mem)
      simp [grows, apart]
    rw [none, same, List.nil_append]

/-- One node more that is done takes away the edges from it. -/
theorem waiting_concat {done : List α} {node : α} (fresh : node ∉ done) (other : α) :
    graph.waiting done other = (graph.targets node).count other + graph.waiting (done ++ [node]) other := by
  have grows : ∀ key, key ∈ done ++ [node] ↔ key = node ∨ key ∈ done := by simp [or_comm]
  rw [waiting, (perm_left fresh grows).count_eq, List.count_append, waiting]

/-! ### Counting down -/

theorem dischargeAll_keys : ∀ {targets : List α} {degrees : Table α Nat}, (∀ node ∈ targets, node ∈ degrees.keys) →
    (dischargeAll degrees targets).1.keys = degrees.keys
  | [], _, _ => rfl
  | target :: rest, degrees, known => by
    have first : (discharge degrees target).1.keys = degrees.keys := by
      rw [discharge, Table.keys_insert, if_pos (known target List.mem_cons_self)]
    rw [dischargeAll, dischargeAll_keys, first]
    intro node mem
    rw [first]
    exact known node (List.mem_cons_of_mem target mem)

theorem getD_discharge (degrees : Table α Nat) (target node : α) :
    (discharge degrees target).1.getD node 0 =
      if node = target then degrees.getD target 0 - 1 else degrees.getD node 0 := by
  rw [discharge, Table.getD_eq, Table.get?_insert_eq]
  split
  · rfl
  · rw [Table.getD_eq]

theorem mem_discharge (degrees : Table α Nat) (target node : α) :
    node ∈ (discharge degrees target).2.toList ↔ node = target ∧ degrees.getD target 0 = 1 := by
  simp only [discharge]
  split <;> simp_all [eq_comm]

/-- Targets are counted down as often as they occur. Those that come down to zero are ready, once each. -/
theorem dischargeAll_spec : ∀ {targets : List α} {degrees : Table α Nat},
    (∀ node, targets.count node ≤ degrees.getD node 0) →
      (∀ node, (dischargeAll degrees targets).1.getD node 0 = degrees.getD node 0 - targets.count node) ∧
      (∀ node, node ∈ (dischargeAll degrees targets).2 ↔ node ∈ targets ∧ degrees.getD node 0 = targets.count node) ∧
      (dischargeAll degrees targets).2.Nodup
  | [], _, _ => by simp [dischargeAll]
  | target :: rest, degrees, bounded => by
    have enough : ∀ node, rest.count node ≤ (discharge degrees target).1.getD node 0 := by
      intro node
      have bound := bounded node
      rw [List.count_cons] at bound
      rw [getD_discharge]
      split <;> grind
    obtain ⟨lowered, readied, distinct⟩ := dischargeAll_spec enough
    have bound := bounded target
    rw [List.count_cons_self] at bound
    refine ⟨?_, ?_, ?_⟩
    · intro node
      rw [dischargeAll, lowered, getD_discharge, List.count_cons]
      split <;> grind
    · intro node
      rw [dischargeAll, List.mem_append, mem_discharge, readied, getD_discharge, List.count_cons, List.mem_cons]
      -- a target that occurs again is ready with a later occurrence, not with this one
      have occurs : node ∈ rest ↔ 0 < rest.count node := List.count_pos_iff.symm
      by_cases same : node = target
      · subst same
        simp only [if_true, occurs, beq_self_eq_true, true_and, true_or]
        omega
      · have apart : (target == node) = false := by simpa using Ne.symm same
        simp [same, apart]
    · rw [dischargeAll, List.nodup_append]
      refine ⟨?_, distinct, ?_⟩
      · cases (discharge degrees target).2 <;> simp
      · rintro first isFirst second isSecond rfl
        obtain ⟨rfl, last⟩ := (mem_discharge degrees target first).1 isFirst
        have again := ((readied first).1 isSecond).1
        rw [← List.count_pos_iff] at again
        omega

/-! ### Emitting -/

/-- How far the emission has come: the nodes that are done, their degrees, and the nodes that are ready. -/
structure Progress (graph : Successors α) (done : List α) (degrees : Table α Nat) (queue : List α) : Prop where
  distinct : (done ++ queue).Nodup
  keys : ∀ node, node ∈ degrees.keys ↔ graph.Mentions node
  degree : ∀ node, degrees.getD node 0 = graph.waiting done node
  ready_iff : ∀ node, node ∈ done ++ queue ↔ graph.Mentions node ∧ graph.waiting done node = 0
  ordered : ∀ source target, graph.Feeds source target → target ∈ done → done.idxOf source < done.idxOf target

/-- What feeds the next node is done, so that the node comes after it. -/
theorem Progress.ordered_concat {done queue : List α} {degrees : Table α Nat} {node : α}
    (progress : Progress graph done degrees (node :: queue)) {source target : α} (feeds : graph.Feeds source target)
    (mem : target ∈ done ++ [node]) : (done ++ [node]).idxOf source < (done ++ [node]).idxOf target := by
  rcases List.mem_append.1 mem with earlier | last
  · have before := progress.ordered source target feeds earlier
    have among : source ∈ done := by
      rw [← List.idxOf_lt_length_iff]
      exact before.trans (List.idxOf_lt_length_of_mem earlier)
    rwa [List.idxOf_append_of_mem among, List.idxOf_append_of_mem earlier]
  · rw [List.mem_singleton] at last
    subst last
    have gone : graph.waiting done target = 0 :=
      ((progress.ready_iff target).1 (List.mem_append_right done List.mem_cons_self)).2
    have among := waiting_eq_zero_iff.1 gone source feeds
    rw [List.idxOf_append_of_mem among, List.idxOf_append_of_notMem (not_mem_of_split progress.distinct)]
    exact Nat.lt_add_right _ (List.idxOf_lt_length_of_mem among)

/-- One node of the queue is emitted, and the nodes that it was the last to hold back enter the queue. -/
theorem Progress.step {done queue : List α} {degrees : Table α Nat} {node : α}
    (progress : Progress graph done degrees (node :: queue)) :
    Progress graph (done ++ [node]) (dischargeAll degrees (graph.targets node)).1
      (queue ++ (dischargeAll degrees (graph.targets node)).2) := by
  have split : done ++ node :: queue = done ++ [node] ++ queue := by simp
  have fresh : node ∉ done := not_mem_of_split progress.distinct
  have waits : ∀ other, graph.waiting done other =
      (graph.targets node).count other + graph.waiting (done ++ [node]) other := waiting_concat fresh
  have known : ∀ target ∈ graph.targets node, target ∈ degrees.keys :=
    fun target feeds => (progress.keys target).2 (.inr ⟨node, feeds⟩)
  have enough : ∀ other, (graph.targets node).count other ≤ degrees.getD other 0 := by
    intro other
    rw [progress.degree, waits]
    omega
  obtain ⟨lowered, readied, onlyOnce⟩ := dischargeAll_spec enough
  refine ⟨?_, ?_, ?_, ?_, ?_⟩
  · rw [← List.append_assoc, ← split, List.nodup_append]
    refine ⟨progress.distinct, onlyOnce, ?_⟩
    rintro first listed second ready rfl
    -- no edge leads into what was ready before
    have gone := ((progress.ready_iff first).1 listed).2
    obtain ⟨feeds, last⟩ := (readied first).1 ready
    rw [progress.degree, gone] at last
    exact absurd (List.count_pos_iff.2 feeds) (by omega)
  · intro other
    rw [dischargeAll_keys known, progress.keys]
  · intro other
    rw [lowered, progress.degree, waits]
    omega
  · intro other
    rw [← List.append_assoc, ← split, List.mem_append, progress.ready_iff, readied, progress.degree, waits]
    have occurs : other ∈ graph.targets node ↔ 0 < (graph.targets node).count other := List.count_pos_iff.symm
    constructor
    · rintro (⟨mentioned, gone⟩ | ⟨feeds, last⟩)
      · exact ⟨mentioned, by omega⟩
      · exact ⟨.inr ⟨node, feeds⟩, by omega⟩
    · rintro ⟨mentioned, gone⟩
      rw [occurs]
      by_cases feeds : 0 < (graph.targets node).count other
      · exact .inr ⟨feeds, by omega⟩
      · exact .inl ⟨mentioned, by omega⟩
  · exact fun source target => progress.ordered_concat

/-- The emission comes to an end, where nothing is ready any more. -/
theorem Progress.emit {steps : Nat} : ∀ {done queue : List α} {degrees : Table α Nat},
    Progress graph done degrees queue → degrees.size ≤ done.length + steps →
      ∃ lowest, Progress graph (done ++ graph.emit steps degrees queue) lowest [] := by
  induction steps with
  | zero =>
    intro done queue degrees progress enough
    -- all nodes are done, so that no place is left in the queue
    have short : (done ++ queue).length ≤ degrees.keys.length := by
      apply (List.subperm_of_subset progress.distinct _).length_le
      intro node mem
      exact (progress.keys node).2 ((progress.ready_iff node).1 mem).1
    rw [List.length_append, Table.length_keys] at short
    have nothing : queue = [] := List.length_eq_zero_iff.1 (by omega)
    subst nothing
    exact ⟨degrees, by rwa [Successors.emit, List.append_nil]⟩
  | succ steps ih =>
    intro done queue degrees progress enough
    cases queue with
    | nil => exact ⟨degrees, by rwa [Successors.emit, List.append_nil]⟩
    | cons node queue =>
      have known : ∀ target ∈ graph.targets node, target ∈ degrees.keys :=
        fun target feeds => (progress.keys target).2 (.inr ⟨node, feeds⟩)
      have size : (dischargeAll degrees (graph.targets node)).1.size = degrees.size := by
        rw [← Table.length_keys, dischargeAll_keys known, Table.length_keys]
      obtain ⟨lowest, further⟩ := ih progress.step (by
        rw [size, List.length_append, List.length_singleton]
        omega)
      refine ⟨lowest, ?_⟩
      rw [Successors.emit]
      rwa [List.append_assoc, List.singleton_append] at further

/-! ### The whole order -/

/-- One edge more enters a target. -/
def raise (degrees : Table α Nat) (target : α) : Table α Nat := degrees.insert target (degrees.getD target 0 + 1)

theorem mem_keys_raise {targets : List α} {degrees : Table α Nat} {node : α} :
    node ∈ (targets.foldl raise degrees).keys ↔ node ∈ degrees.keys ∨ node ∈ targets := by
  induction targets generalizing degrees with
  | nil => simp
  | cons target rest ih =>
    rw [List.foldl_cons, ih, raise, Table.mem_keys_insert, List.mem_cons]
    tauto

theorem getD_raise {targets : List α} {degrees : Table α Nat} {node : α} :
    (targets.foldl raise degrees).getD node 0 = degrees.getD node 0 + targets.count node := by
  induction targets generalizing degrees with
  | nil => rfl
  | cons target rest ih =>
    rw [List.foldl_cons, ih, raise, Table.getD_eq, Table.get?_insert_eq, List.count_cons]
    by_cases same : node = target
    · subst same
      simp only [if_true, Option.getD_some, beq_self_eq_true]
      omega
    · have apart : (target == node) = false := by simpa using Ne.symm same
      simp [same, apart, Table.getD_eq]

/-- The keys without edges into them. -/
def unfed (graph : Successors α) : Table α Nat := .ofList (graph.keys.map fun key => (key, 0))

theorem entries_unfed (graph : Successors α) : graph.unfed.entries = graph.keys.map fun key => (key, 0) := by
  apply Table.entries_ofList
  rw [List.map_map]
  exact (List.map_id graph.keys).symm ▸ graph.nodup_keys

theorem keys_unfed (graph : Successors α) : graph.unfed.keys = graph.keys := by
  rw [Table.keys, entries_unfed, List.map_map]
  exact List.map_id graph.keys

theorem getD_unfed (graph : Successors α) (node : α) : graph.unfed.getD node 0 = 0 := by
  rw [Table.getD_eq]
  cases found : graph.unfed.get? node with
  | none => rfl
  | some degree =>
    rw [Table.get?_eq_some_iff, entries_unfed, List.mem_map] at found
    obtain ⟨key, -, same⟩ := found
    exact (Prod.ext_iff.1 same).2.symm

theorem indegrees_eq (graph : Successors α) : graph.indegrees = graph.values.flatten.foldl raise graph.unfed := rfl

theorem mem_keys_indegrees (graph : Successors α) (node : α) : node ∈ graph.indegrees.keys ↔ graph.Mentions node := by
  rw [indegrees_eq, mem_keys_raise, keys_unfed, Mentions, values_eq, ← List.flatMap_def, List.mem_flatMap]
  apply or_congr_right
  constructor
  · rintro ⟨source, -, feeds⟩
    exact ⟨source, feeds⟩
  · rintro ⟨source, feeds⟩
    exact ⟨source, mem_keys_of_feeds feeds, feeds⟩

theorem getD_indegrees (graph : Successors α) (node : α) : graph.indegrees.getD node 0 = graph.waiting [] node := by
  rw [indegrees_eq, getD_raise, getD_unfed, Nat.zero_add, waiting_nil]

/-- In the beginning nothing is done, and the nodes into which no edge leads are ready. -/
theorem progress_start (graph : Successors α) :
    Progress graph [] graph.indegrees
      ((graph.indegrees.entries.filter fun entry => entry.2 == 0).map Prod.fst) := by
  refine ⟨?_, graph.mem_keys_indegrees, graph.getD_indegrees, ?_, ?_⟩
  · exact (List.filter_sublist.map Prod.fst).nodup graph.indegrees.nodup
  · intro node
    rw [List.nil_append, List.mem_map, ← mem_keys_indegrees, ← getD_indegrees, Table.mem_keys_iff_get?, Table.getD_eq]
    constructor
    · rintro ⟨⟨key, value⟩, mem, rfl⟩
      rw [List.mem_filter, beq_iff_eq] at mem
      have found := (Table.get?_eq_some_iff _ key value).2 mem.1
      exact ⟨⟨value, found⟩, by rw [found]; exact mem.2⟩
    · rintro ⟨⟨value, found⟩, zero⟩
      rw [found] at zero
      refine ⟨(node, value), List.mem_filter.2 ⟨(Table.get?_eq_some_iff _ node value).1 found, ?_⟩, rfl⟩
      simpa using zero
  · intro source target _ mem
    cases mem

/-- Among finitely many nodes that are all fed by others of them there is a cycle. -/
theorem exists_cycle {left : List α} (some : left ≠ [])
    (held : ∀ node ∈ left, ∃ source ∈ left, graph.Feeds source node) :
    ∃ node, Relation.TransGen graph.Feeds node node := by
  by_contra acyclic
  let before : left.toFinset → left.toFinset → Prop := fun source target => Relation.TransGen graph.Feeds source target
  have transitive : IsTrans left.toFinset before := ⟨fun _ _ _ => Relation.TransGen.trans⟩
  have irreflexive : Std.Irrefl before := ⟨fun node path => acyclic ⟨node.1, path⟩⟩
  have founded : WellFounded before := Finite.wellFounded_of_trans_of_irrefl before
  -- a node that none of the others comes before would not be fed
  obtain ⟨first, listed⟩ := List.exists_mem_of_ne_nil left some
  obtain ⟨least, -, minimal⟩ := founded.has_min Set.univ ⟨⟨first, List.mem_toFinset.2 listed⟩, trivial⟩
  obtain ⟨source, alsoListed, feeds⟩ := held least.1 (List.mem_toFinset.1 least.2)
  exact minimal ⟨source, List.mem_toFinset.2 alsoListed⟩ trivial (.single feeds)

/-- All nodes of a graph, each of them once and before what it feeds. -/
structure Orders (graph : Successors α) (order : List α) : Prop where
  distinct : order.Nodup
  mem_iff : ∀ node, node ∈ order ↔ graph.Mentions node
  forward : ∀ source target, graph.Feeds source target → order.idxOf source < order.idxOf target

/-- What is ordered has no cycles. -/
theorem Orders.acyclic {order : List α} (orders : graph.Orders order) {node : α} :
    ¬ Relation.TransGen graph.Feeds node node := by
  have later : ∀ {source target}, Relation.TransGen graph.Feeds source target →
      order.idxOf source < order.idxOf target := by
    intro source target path
    induction path with
    | single feeds => exact orders.forward _ _ feeds
    | tail _ feeds ih => exact ih.trans (orders.forward _ _ feeds)
  exact fun cycle => lt_irrefl _ (later cycle)

/-- Either all nodes come in an order along the edges, or there is no order and some node lies on a cycle. -/
theorem topologicalOrder_cases (graph : Successors α) :
    (∃ order, graph.topologicalOrder = .ok order ∧ graph.Orders order) ∨
    (graph.topologicalOrder = fail (.breakdown .cycle) ∧ ∃ node, Relation.TransGen graph.Feeds node node) := by
  obtain ⟨lowest, progress⟩ := graph.progress_start.emit (Nat.le_add_left graph.indegrees.size _)
  have distinct := progress.distinct
  have ready := progress.ready_iff
  have ordered := progress.ordered
  have keys := graph.mem_keys_indegrees
  rw [List.append_nil, List.nil_append] at distinct
  simp only [List.append_nil, List.nil_append] at ready ordered
  rw [topologicalOrder]
  generalize graph.emit graph.indegrees.size graph.indegrees _ = order at distinct ready ordered
  have within : order ⊆ graph.indegrees.keys := fun node mem => (keys node).2 ((ready node).1 mem).1
  by_cases complete : order.length = graph.indegrees.size
  · rw [if_pos complete]
    left
    have perm : order.Perm graph.indegrees.keys := by
      apply (List.subperm_of_subset distinct within).perm_of_length_le
      rw [Table.length_keys, complete]
    have all : ∀ node, node ∈ order ↔ graph.Mentions node := fun node => perm.mem_iff.trans (keys node)
    exact ⟨order, rfl, distinct, all, fun source target feeds =>
      ordered source target feeds ((all target).2 (.inr ⟨source, feeds⟩))⟩
  · rw [if_neg complete]
    refine .inr ⟨rfl, ?_⟩
    -- every node that is left is held back by another one that is left
    let left := graph.indegrees.keys.filter fun node => node ∉ order
    have mem_left : ∀ node, node ∈ left ↔ graph.Mentions node ∧ node ∉ order := by
      intro node
      rw [List.mem_filter, keys, decide_eq_true_eq]
    refine @exists_cycle α _ graph left (fun none => ?_) fun node mem => ?_
    · have more : graph.indegrees.keys ⊆ order := by
        intro node mem
        by_contra absent
        exact List.ne_nil_of_mem ((mem_left node).2 ⟨(keys node).1 mem, absent⟩) none
      have upper := (List.subperm_of_subset graph.indegrees.nodup_keys more).length_le
      have lower := (List.subperm_of_subset distinct within).length_le
      rw [Table.length_keys] at upper lower
      omega
    · obtain ⟨mentioned, absent⟩ := (mem_left node).1 mem
      have waits : graph.waiting order node ≠ 0 := fun zero => absent ((ready node).2 ⟨mentioned, zero⟩)
      rw [ne_eq, waiting_eq_zero_iff] at waits
      push Not at waits
      obtain ⟨source, feeds, alsoLeft⟩ := waits
      exact ⟨source, (mem_left source).2 ⟨.inl (mem_keys_of_feeds feeds), alsoLeft⟩, feeds⟩

theorem hasCycle_iff (graph : Successors α) :
    graph.hasCycle = true ↔ ∃ node, Relation.TransGen graph.Feeds node node := by
  rw [hasCycle]
  rcases graph.topologicalOrder_cases with ⟨order, found, orders⟩ | ⟨failed, cycle⟩
  · rw [found]
    exact iff_of_false (by simp) fun ⟨_, cycle⟩ => orders.acyclic cycle
  · rw [failed]
    exact iff_of_true rfl cycle

/-- A graph has no order exactly if some node lies on a cycle; otherwise the order that is found has all keys and
targets, each of them once and before its own targets. -/
theorem orders_unless_cyclic (graph : Successors α) :
    (graph.topologicalOrder = fail (.breakdown .cycle) ↔ ∃ node, Relation.TransGen graph.Feeds node node) ∧
      ((∃ order, graph.topologicalOrder = .ok order ∧ graph.Orders order) ↔
        ¬ ∃ node, Relation.TransGen graph.Feeds node node) := by
  rcases graph.topologicalOrder_cases with ⟨order, found, orders⟩ | ⟨failed, cycle⟩
  · have acyclic : ¬ ∃ node, Relation.TransGen graph.Feeds node node := fun ⟨_, cycle⟩ => orders.acyclic cycle
    constructor
    · rw [found]
      exact iff_of_false (by simp [fail]) acyclic
    · exact iff_of_true ⟨order, found, orders⟩ acyclic
  · constructor
    · exact iff_of_true failed cycle
    · rw [failed]
      exact iff_of_false (by simp [fail]) (not_not.2 cycle)

/-- Targets may repeat and need not be keys. -/
example : topologicalOrder (.ofList [("op", ["out"]), ("in", ["op", "op"])]) = .ok ["in", "op", "out"] :=
  rfl

end NestedFlow.Successors

namespace NestedFlow.DependencyGraph

open Successors

variable {α : Type} [DecidableEq α]

theorem feeds_mention {graph : Successors α} {node source target : α} :
    (mention graph node).Feeds source target ↔ graph.Feeds source target := by
  rw [mention]
  split
  · rfl
  · rename_i absent
    rw [Bool.not_eq_true, Table.contains, Option.isSome_eq_false_iff, Option.isNone_iff_eq_none] at absent
    rw [Feeds, Feeds, targets, targets, Table.getD_eq, Table.getD_eq, Table.get?_insert_eq]
    split
    · rename_i same
      rw [same, absent]
      rfl
    · rfl

theorem feeds_addTarget {graph : Successors α} {first second source target : α} :
    (addTarget graph first second).Feeds source target ↔
      graph.Feeds source target ∨ source = first ∧ target = second := by
  rw [addTarget, Feeds, Feeds, targets, Table.getD_eq, Table.get?_insert_eq]
  split
  · rename_i same
    subst same
    rw [Option.getD_some]
    split
    · rename_i mem
      simp only [true_and]
      exact ⟨.inl, fun either => either.elim id fun same => same ▸ mem⟩
    · rw [List.mem_append, List.mem_singleton]
      simp only [true_and]
  · rename_i apart
    simp [apart, targets, Table.getD_eq]

/-- A graph has exactly the edges that it is made of. -/
theorem feeds_ofEdges {edges : List (α × α)} {nodes : List α} {source target : α} :
    (ofEdges edges nodes).successors.Feeds source target ↔ (source, target) ∈ edges := by
  have added : ∀ (nodes : List α) (graph : DependencyGraph α),
      (nodes.foldl addNode graph).successors.Feeds source target ↔ graph.successors.Feeds source target := by
    intro nodes
    induction nodes with
    | nil => exact fun _ => Iff.rfl
    | cons node rest ih => exact fun graph => (ih (graph.addNode node)).trans feeds_mention
  have joined : ∀ (edges : List (α × α)) (graph : DependencyGraph α),
      (edges.foldl addEdge graph).successors.Feeds source target ↔
        graph.successors.Feeds source target ∨ (source, target) ∈ edges := by
    intro edges
    induction edges with
    | nil => simp
    | cons edge rest ih =>
      intro graph
      rw [List.foldl_cons, ih, addEdge, feeds_mention, feeds_addTarget, List.mem_cons, or_assoc, Prod.ext_iff]
  rw [ofEdges, joined, added]
  have empty : ¬(∅ : Successors α).Feeds source target := List.not_mem_nil
  simp only [empty, false_or]

theorem mem_keys_mention {graph : Successors α} {node other : α} :
    other ∈ (mention graph node).keys ↔ other = node ∨ other ∈ graph.keys := by
  rw [mention]
  split
  · rename_i present
    exact ⟨.inr, fun either => either.elim (fun same => same ▸ (Table.mem_keys_iff graph node).2 present) id⟩
  · exact Table.mem_keys_insert

theorem mem_keys_ofEdges {edges : List (α × α)} {nodes : List α} {node : α} :
    node ∈ (ofEdges edges nodes).successors.keys ↔ node ∈ nodes ∨ ∃ edge ∈ edges, node = edge.1 ∨ node = edge.2 := by
  have added : ∀ (nodes : List α) (graph : DependencyGraph α),
      node ∈ (nodes.foldl addNode graph).successors.keys ↔ node ∈ nodes ∨ node ∈ graph.successors.keys := by
    intro nodes
    induction nodes with
    | nil => simp
    | cons first rest ih =>
      intro graph
      rw [List.foldl_cons, ih, addNode, mem_keys_mention, List.mem_cons, or_left_comm, or_assoc]
  have joined : ∀ (edges : List (α × α)) (graph : DependencyGraph α),
      node ∈ (edges.foldl addEdge graph).successors.keys ↔
        node ∈ graph.successors.keys ∨ ∃ edge ∈ edges, node = edge.1 ∨ node = edge.2 := by
    intro edges
    induction edges with
    | nil => simp
    | cons edge rest ih =>
      intro graph
      rw [List.foldl_cons, ih, addEdge, mem_keys_mention, addTarget, Table.mem_keys_insert, List.exists_mem_cons_iff]
      grind
  have empty : node ∉ (∅ : Successors α).keys := List.not_mem_nil
  rw [ofEdges, joined, added]
  simp only [empty, or_false]

/-- The nodes of a graph are those that it is made of, if its edges are among them. -/
theorem mentions_ofEdges {edges : List (α × α)} {nodes : List α}
    (among : ∀ edge ∈ edges, edge.1 ∈ nodes ∧ edge.2 ∈ nodes) {node : α} :
    (ofEdges edges nodes).successors.Mentions node ↔ node ∈ nodes := by
  rw [Mentions, mem_keys_ofEdges]
  constructor
  · rintro ((mem | ⟨edge, mem, rfl | rfl⟩) | ⟨source, feeds⟩)
    · exact mem
    · exact (among edge mem).1
    · exact (among edge mem).2
    · exact (among _ (feeds_ofEdges.1 feeds)).2
  · exact fun mem => .inl (.inl mem)

theorem hasCycle_ofEdges_iff {edges : List (α × α)} {nodes : List α} :
    (ofEdges edges nodes).hasCycle = true ↔
      ∃ node, Relation.TransGen (fun source target => (source, target) ∈ edges) node node := by
  have same : (ofEdges edges nodes).successors.Feeds = fun source target => (source, target) ∈ edges := by
    funext source target
    exact propext feeds_ofEdges
  rw [hasCycle, hasCycle_iff, same]

end NestedFlow.DependencyGraph
