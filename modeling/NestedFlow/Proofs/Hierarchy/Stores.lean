import Mathlib.Logic.Relation
import Mathlib.Order.WellFounded
import NestedFlow.Proofs.Hierarchy.Walk

/-! The forest that a hierarchy stores, and the answers to questions about it.

The children of a node are stored as links between neighbours. The forest itself is a list of children for every node;
walks along the links give back these lists, the nodes above a node, and the nodes below it.
-/

set_option autoImplicit false

namespace NestedFlow.Hierarchy

open Relation

/-- In the forest of some lists of children, the first node has the second one as a child. -/
def Holds (kids : Node → List Node) (parent child : Node) : Prop := child ∈ kids parent

/-- In the forest of some lists of children, the first node is strictly above the second one. -/
def Above (kids : Node → List Node) : Node → Node → Prop := TransGen (Holds kids)

theorem above_mono {kids others : Node → List Node} (fewer : ∀ parent, ∀ child ∈ kids parent, child ∈ others parent)
    {above below : Node} (path : Above kids above below) : Above others above below :=
  TransGen.mono (fun parent child holds => fewer parent child holds) above below path

/-- The links of a hierarchy are those of a forest with the given lists of children. -/
structure Stores (hierarchy : Hierarchy) (kids : Node → List Node) : Prop where
  parent_iff : ∀ node parent, hierarchy.parents.get? node = some parent ↔ node ∈ kids parent
  distinct : ∀ parent, (kids parent).Nodup
  first_eq : ∀ parent, hierarchy.firsts.get? parent = (kids parent).head?
  last_eq : ∀ parent, hierarchy.lasts.get? parent = (kids parent).getLast?
  next_iff : ∀ node next, hierarchy.nexts.get? node = some next ↔ ∃ parent, Adjacent (kids parent) node next
  prev_iff : ∀ node prev, hierarchy.prevs.get? node = some prev ↔ ∃ parent, Adjacent (kids parent) prev node
  count_eq : ∀ parent, hierarchy.counts.get? parent = if kids parent = [] then none else some (kids parent).length
  /-- Going from child to parent comes to an end. -/
  grounded : WellFounded (Holds kids)

theorem stores_empty : empty.Stores fun _ => [] where
  parent_iff node parent := by simp [empty]
  distinct parent := List.nodup_nil
  first_eq parent := rfl
  last_eq parent := rfl
  next_iff node next := by simp [empty, Adjacent]
  prev_iff node prev := by simp [empty, Adjacent]
  count_eq parent := by simp [empty]
  grounded := ⟨fun node => ⟨node, fun parent holds => absurd holds List.not_mem_nil⟩⟩

namespace Stores

variable {hierarchy : Hierarchy} {kids : Node → List Node}

theorem parent_unique (stores : hierarchy.Stores kids) {node first second : Node} (inFirst : node ∈ kids first)
    (inSecond : node ∈ kids second) : first = second := by
  have found := (stores.parent_iff node first).2 inFirst
  rw [(stores.parent_iff node second).2 inSecond, Option.some.injEq] at found
  exact found.symm

theorem parent?_eq_none_iff (stores : hierarchy.Stores kids) (node : Node) :
    hierarchy.parent? node = none ↔ ∀ parent, node ∉ kids parent := by
  rw [Option.eq_none_iff_forall_ne_some]
  exact forall_congr' fun parent => not_congr (stores.parent_iff node parent)

theorem not_above_self (stores : hierarchy.Stores kids) (node : Node) : ¬ Above kids node node :=
  fun above => stores.grounded.transGen.asymmetric node node above above

/-- Above a child are its parent and what is above that. -/
theorem above_iff (stores : hierarchy.Stores kids) {node parent : Node} (child : node ∈ kids parent) (above : Node) :
    Above kids above node ↔ above = parent ∨ Above kids above parent := by
  constructor
  · intro path
    rcases TransGen.tail'_iff.1 path with ⟨last, further, holds⟩
    rw [stores.parent_unique holds child] at further
    rcases reflTransGen_iff_eq_or_transGen.1 further with same | path
    · exact .inl same.symm
    · exact .inr path
  · rintro (rfl | path)
    · exact .single child
    · exact path.tail child

theorem not_above_of_top (_stores : hierarchy.Stores kids) {node : Node} (top : ∀ parent, node ∉ kids parent)
    (above : Node) : ¬ Above kids above node := by
  intro path
  rcases TransGen.tail'_iff.1 path with ⟨parent, -, holds⟩
  exact top parent holds

/-! ### Children -/

/-- The next sibling of a child is the first one of those after it. -/
theorem next_eq (stores : hierarchy.Stores kids) {parent node : Node} {before after : List Node}
    (split : kids parent = before ++ node :: after) : hierarchy.nexts.get? node = after.head? := by
  apply Option.ext
  intro next
  rw [stores.next_iff, ← adjacent_right_iff (split ▸ stores.distinct parent), ← split]
  refine ⟨fun ⟨other, adjacent⟩ => ?_, fun adjacent => ⟨parent, adjacent⟩⟩
  have here : node ∈ kids parent := by simp [split]
  rwa [stores.parent_unique adjacent.mem.1 here] at adjacent

/-- The previous sibling of a child is the last one of those before it. -/
theorem prev_eq (stores : hierarchy.Stores kids) {parent node : Node} {before after : List Node}
    (split : kids parent = before ++ node :: after) : hierarchy.prevs.get? node = before.getLast? := by
  apply Option.ext
  intro prev
  rw [stores.prev_iff, ← adjacent_left_iff (split ▸ stores.distinct parent), ← split]
  refine ⟨fun ⟨other, adjacent⟩ => ?_, fun adjacent => ⟨parent, adjacent⟩⟩
  have here : node ∈ kids parent := by simp [split]
  rwa [stores.parent_unique adjacent.mem.2 here] at adjacent

/-- The links from sibling to sibling lead through the children in their order. -/
theorem walk_kids (stores : hierarchy.Stores kids) (parent : Node) :
    Walk hierarchy.nexts (hierarchy.firstChild? parent) (kids parent) := by
  have walk : ∀ before rest, kids parent = before ++ rest → Walk hierarchy.nexts rest.head? rest := by
    intro before rest split
    induction rest generalizing before with
    | nil => exact .done
    | cons node rest ih =>
      apply Walk.step
      rw [stores.next_eq split]
      exact ih (before ++ [node]) (by rw [split, List.append_assoc, List.singleton_append])
  rw [firstChild?, stores.first_eq]
  exact walk [] (kids parent) rfl

theorem children_eq (stores : hierarchy.Stores kids) (parent : Node) : hierarchy.children parent = kids parent :=
  (stores.walk_kids parent).chain_size_eq (stores.distinct parent)

theorem numChildren_eq (stores : hierarchy.Stores kids) (parent : Node) :
    hierarchy.numChildren parent = (kids parent).length := by
  rw [numChildren, Table.getD_eq, stores.count_eq]
  split
  · rename_i none
    rw [none]
    rfl
  · rfl

theorem hasChildren_eq (stores : hierarchy.Stores kids) (parent : Node) :
    hierarchy.hasChildren parent = !(kids parent).isEmpty := by
  rw [hasChildren, Table.contains, stores.first_eq]
  cases kids parent <;> rfl

/-! ### Nodes above -/

theorem exists_walk_up (stores : hierarchy.Stores kids) (node : Node) :
    ∃ visited, Walk hierarchy.parents (hierarchy.parent? node) visited ∧ visited.Nodup ∧
      ∀ above, above ∈ visited ↔ Above kids above node := by
  -- along the parents, which come to an end
  induction node using stores.grounded.induction with
  | _ node ih =>
    cases found : hierarchy.parent? node with
    | none =>
      refine ⟨[], .done, List.nodup_nil, fun above => ?_⟩
      have top := stores.not_above_of_top ((stores.parent?_eq_none_iff node).1 found) above
      simp [top]
    | some parent =>
      have child := (stores.parent_iff node parent).1 found
      obtain ⟨visited, walk, nodup, members⟩ := ih parent child
      refine ⟨parent :: visited, .step walk, List.nodup_cons.2 ⟨?_, nodup⟩, fun above => ?_⟩
      · rw [members]
        exact stores.not_above_self parent
      · rw [List.mem_cons, members, stores.above_iff child]

theorem walk_ancestors (stores : hierarchy.Stores kids) (node : Node) :
    Walk hierarchy.parents (hierarchy.parent? node) (hierarchy.ancestors node) := by
  obtain ⟨visited, walk, nodup, -⟩ := stores.exists_walk_up node
  rw [ancestors, walk.chain_size_eq nodup]
  exact walk

theorem mem_ancestors (stores : hierarchy.Stores kids) {above node : Node} :
    above ∈ hierarchy.ancestors node ↔ Above kids above node := by
  obtain ⟨visited, walk, nodup, members⟩ := stores.exists_walk_up node
  rw [ancestors, walk.chain_size_eq nodup, members]

theorem nodup_ancestors (stores : hierarchy.Stores kids) (node : Node) : (hierarchy.ancestors node).Nodup := by
  obtain ⟨visited, walk, nodup, -⟩ := stores.exists_walk_up node
  rwa [ancestors, walk.chain_size_eq nodup]

theorem ancestors_of_mem (stores : hierarchy.Stores kids) {node parent : Node} (child : node ∈ kids parent) :
    hierarchy.ancestors node = parent :: hierarchy.ancestors parent := by
  obtain ⟨visited, walk, nodup, members⟩ := stores.exists_walk_up node
  have found : hierarchy.parent? node = some parent := (stores.parent_iff node parent).2 child
  rw [ancestors, walk.chain_size_eq nodup]
  rw [found] at walk
  cases walk with
  | step further =>
    rw [ancestors, parent?, further.chain_size_eq nodup.of_cons]

theorem ancestors_of_top (_stores : hierarchy.Stores kids) {node : Node} (top : hierarchy.parent? node = none) :
    hierarchy.ancestors node = [] := by
  rw [ancestors, top]
  rfl

theorem isAncestor_iff (stores : hierarchy.Stores kids) {above node : Node} :
    hierarchy.isAncestor above node = true ↔ Above kids above node := by
  rw [isAncestor, decide_eq_true_iff, stores.mem_ancestors]

theorem contains_iff (stores : hierarchy.Stores kids) {above node : Node} :
    hierarchy.contains above node = true ↔ above = node ∨ Above kids above node := by
  rw [contains, Bool.or_eq_true, beq_iff_eq, stores.isAncestor_iff]

theorem length_ancestors_le (stores : hierarchy.Stores kids) (node : Node) :
    (hierarchy.ancestors node).length ≤ hierarchy.parents.size := by
  have walk : Walk hierarchy.parents (some node) (node :: hierarchy.ancestors node) := .step (stores.walk_ancestors node)
  have nodup : (node :: hierarchy.ancestors node).Nodup := by
    rw [List.nodup_cons, stores.mem_ancestors]
    exact ⟨stores.not_above_self node, stores.nodup_ancestors node⟩
  have bound := walk.length_le nodup
  rw [List.length_cons] at bound
  omega

/-! ### Nodes below -/

/-- Going from parent to child comes to an end too, since there are finitely many links. -/
theorem founded_below (stores : hierarchy.Stores kids) : WellFounded fun child parent => Holds kids parent child := by
  apply Subrelation.wf (r := InvImage (· < ·) fun node => hierarchy.parents.size - (hierarchy.ancestors node).length)
  · intro child parent holds
    have deeper := congrArg List.length (stores.ancestors_of_mem holds)
    have bound := stores.length_ancestors_le child
    rw [List.length_cons] at deeper
    change hierarchy.parents.size - _ < hierarchy.parents.size - _
    omega
  · exact InvImage.wf _ Nat.lt_wfRel.wf

end Stores

/-- What a stack of nodes leads to in pre-order. -/
inductive Preorder (kids : Node → List Node) : List Node → List Node → Prop where
  | done : Preorder kids [] []
  | step {node : Node} {stack listed : List Node} (further : Preorder kids (kids node ++ stack) listed) :
      Preorder kids (node :: stack) (node :: listed)

namespace Preorder

variable {kids : Node → List Node} {stack listed : List Node}

theorem unique (first : Preorder kids stack listed) {other : List Node} (second : Preorder kids stack other) :
    listed = other := by
  induction first generalizing other with
  | done => cases second; rfl
  | step _ ih =>
    cases second with
    | step further => rw [ih further]

theorem append (first : Preorder kids stack listed) {more others : List Node} (second : Preorder kids more others) :
    Preorder kids (stack ++ more) (listed ++ others) := by
  induction first with
  | done => exact second
  | step _ ih =>
    apply Preorder.step
    rwa [List.append_assoc] at ih

theorem preorder_eq {hierarchy : Hierarchy} (same : ∀ node, hierarchy.children node = kids node)
    (preorder : Preorder kids stack listed) {steps : Nat} (enough : listed.length ≤ steps) :
    hierarchy.preorder steps stack = listed := by
  induction preorder generalizing steps with
  | done => cases steps <;> rfl
  | step _ ih =>
    cases steps with
    | zero => simp at enough
    | succ steps =>
      rw [Hierarchy.preorder, same, ih (by simpa using enough)]

end Preorder

end NestedFlow.Hierarchy
