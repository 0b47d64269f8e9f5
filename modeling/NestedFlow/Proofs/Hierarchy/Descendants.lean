import NestedFlow.Proofs.Hierarchy.Stores

/-! The nodes below a node: each one once, every node before its children, and sibling by sibling. -/

set_option autoImplicit false

namespace NestedFlow.Hierarchy.Stores

open Relation

variable {hierarchy : Hierarchy} {kids : Node → List Node}

/-- Nothing is below two siblings, or is one of them and below the other. -/
theorem siblings_apart (stores : hierarchy.Stores kids) {parent first second node : Node}
    (isFirst : first ∈ kids parent) (isSecond : second ∈ kids parent) (apart : first ≠ second)
    (belowFirst : node = first ∨ Above kids first node) (belowSecond : node = second ∨ Above kids second node) :
    False := by
  have unique : Relator.RightUnique (Function.swap (Holds kids)) := fun _ _ _ inFirst inSecond =>
    stores.parent_unique inFirst inSecond
  have path : ∀ {above : Node}, node = above ∨ Above kids above node →
      ReflTransGen (Function.swap (Holds kids)) node above := by
    intro above below
    rw [reflTransGen_swap]
    rcases below with same | path
    · rw [same]
    · exact path.to_reflTransGen
  have impossible : ∀ {one other : Node}, one ∈ kids parent → other ∈ kids parent → one ≠ other →
      ¬ ReflTransGen (Function.swap (Holds kids)) one other := by
    intro one other isOne isOther differ path
    have reverse : ReflTransGen (Holds kids) other one := reflTransGen_swap.1 path
    rcases reflTransGen_iff_eq_or_transGen.1 reverse with same | above
    · exact differ same
    · rcases (stores.above_iff isOne other).1 above with same | above
      · rw [same] at isOther
        exact stores.not_above_self parent (.single isOther)
      · exact stores.not_above_self parent ((TransGen.single isOther).trans above)
  rcases ReflTransGen.total_of_right_unique unique (path belowFirst) (path belowSecond) with forward | backward
  · exact impossible isFirst isSecond apart forward
  · exact impossible isSecond isFirst apart.symm backward

theorem below_iff (_stores : hierarchy.Stores kids) {parent node : Node} :
    Above kids parent node ↔ ∃ child ∈ kids parent, node = child ∨ Above kids child node := by
  constructor
  · intro path
    obtain ⟨child, holds, further⟩ := TransGen.head'_iff.1 path
    exact ⟨child, holds, reflTransGen_iff_eq_or_transGen.1 further⟩
  · rintro ⟨child, holds, same | path⟩
    · rw [same]
      exact .single holds
    · exact .head holds path

theorem exists_preorder (stores : hierarchy.Stores kids) (node : Node) :
    ∃ listed, Preorder kids (kids node) listed ∧ listed.Nodup ∧ ∀ below, below ∈ listed ↔ Above kids node below := by
  -- down the forest, and for one node along its children
  induction node using stores.founded_below.induction with
  | _ node ih =>
    have along : ∀ some : List Node, some ⊆ kids node → some.Nodup → ∃ listed, Preorder kids some listed ∧
        listed.Nodup ∧ ∀ below, below ∈ listed ↔ ∃ child ∈ some, below = child ∨ Above kids child below := by
      intro some
      induction some with
      | nil => exact fun _ _ => ⟨[], .done, List.nodup_nil, by simp⟩
      | cons child rest more =>
        intro children nodup
        rw [List.nodup_cons] at nodup
        have isChild := children List.mem_cons_self
        obtain ⟨listed, preorder, distinct, members⟩ := ih child isChild
        obtain ⟨others, further, othersDistinct, othersMembers⟩ :=
          more (fun other mem => children (List.mem_cons_of_mem _ mem)) nodup.2
        have single : Preorder kids [child] (child :: listed) := by
          apply Preorder.step
          rwa [List.append_nil]
        refine ⟨(child :: listed) ++ others, single.append further, ?_, ?_⟩
        · rw [List.nodup_append, List.nodup_cons]
          refine ⟨⟨?_, distinct⟩, othersDistinct, ?_⟩
          · rw [members]
            exact stores.not_above_self child
          · rintro below inFirst other inRest rfl
            rw [List.mem_cons, members] at inFirst
            obtain ⟨sibling, isSibling, belowSibling⟩ := (othersMembers below).1 inRest
            exact stores.siblings_apart isChild (children (List.mem_cons_of_mem _ isSibling))
              (fun same => nodup.1 (same ▸ isSibling)) inFirst belowSibling
        · intro below
          rw [List.mem_append, List.mem_cons, members, othersMembers]
          simp only [List.mem_cons, exists_eq_or_imp]
    obtain ⟨listed, preorder, nodup, members⟩ := along (kids node) (fun _ mem => mem) (stores.distinct node)
    exact ⟨listed, preorder, nodup, fun below => (members below).trans stores.below_iff.symm⟩

/-- What a node leads to in pre-order is read off within the bound on the steps. -/
theorem descendants_of_preorder (stores : hierarchy.Stores kids) {node : Node} {listed : List Node}
    (preorder : Preorder kids (kids node) listed) : hierarchy.descendants node = node :: listed := by
  obtain ⟨found, same, nodup, members⟩ := stores.exists_preorder node
  rw [preorder.unique same]
  have single : Preorder kids [node] (node :: found) := by
    apply Preorder.step
    rwa [List.append_nil]
  apply single.preorder_eq stores.children_eq
  have attached : found ⊆ hierarchy.parents.keys := by
    intro below mem
    obtain ⟨parent, -, holds⟩ := TransGen.tail'_iff.1 ((members below).1 mem)
    exact Table.mem_keys_of_get? ((stores.parent_iff below parent).2 holds)
  have bound := nodup.length_le_of_subset attached
  rw [Table.length_keys] at bound
  rw [List.length_cons]
  omega

theorem mem_descendants (stores : hierarchy.Stores kids) {node below : Node} :
    below ∈ hierarchy.descendants node ↔ below = node ∨ Above kids node below := by
  obtain ⟨listed, preorder, -, members⟩ := stores.exists_preorder node
  rw [stores.descendants_of_preorder preorder, List.mem_cons, members]

/-- A tree holds the children of its nodes. -/
theorem mem_descendants_of_child (stores : hierarchy.Stores kids) {root parent child : Node}
    (inTree : parent ∈ hierarchy.descendants root) (isChild : child ∈ kids parent) :
    child ∈ hierarchy.descendants root := by
  rw [stores.mem_descendants] at inTree ⊢
  rcases inTree with rfl | path
  · exact .inr (.single isChild)
  · exact .inr (path.tail isChild)

theorem nodup_descendants (stores : hierarchy.Stores kids) (node : Node) : (hierarchy.descendants node).Nodup := by
  obtain ⟨listed, preorder, nodup, members⟩ := stores.exists_preorder node
  rw [stores.descendants_of_preorder preorder, List.nodup_cons, members]
  exact ⟨stores.not_above_self node, nodup⟩

/-- Below a node is what is below its children, one child after another. -/
theorem descendants_eq (stores : hierarchy.Stores kids) (node : Node) :
    hierarchy.descendants node = node :: (kids node).flatMap hierarchy.descendants := by
  have along : ∀ some : List Node, Preorder kids some (some.flatMap hierarchy.descendants) := by
    intro some
    induction some with
    | nil => exact .done
    | cons child rest ih =>
      obtain ⟨listed, preorder, -, -⟩ := stores.exists_preorder child
      have single : Preorder kids [child] (child :: listed) := by
        apply Preorder.step
        rwa [List.append_nil]
      rw [List.flatMap_cons, stores.descendants_of_preorder preorder]
      exact single.append ih
  exact stores.descendants_of_preorder (along (kids node))

/-- In pre-order no node stands before one that is above it. -/
theorem descendants_ordered (stores : hierarchy.Stores kids) (node : Node) :
    (hierarchy.descendants node).Pairwise fun earlier later => ¬ Above kids later earlier := by
  induction node using stores.founded_below.induction with
  | _ node ih =>
    rw [stores.descendants_eq, List.pairwise_cons]
    constructor
    · intro later mem above
      have below : later ∈ hierarchy.descendants node := by
        rw [stores.descendants_eq]
        exact List.mem_cons_of_mem _ mem
      rcases stores.mem_descendants.1 below with same | path
      · rw [same] at above
        exact stores.not_above_self node above
      · exact stores.not_above_self node (path.trans above)
    · rw [List.pairwise_flatMap]
      constructor
      · exact fun child isChild => ih child isChild
      · apply (stores.distinct node).imp_of_mem
        intro first second isFirst isSecond apart earlier inFirst later inSecond above
        rw [stores.mem_descendants] at inFirst inSecond
        apply stores.siblings_apart isFirst isSecond apart inFirst
        rcases inSecond with same | path
        · exact .inr (same ▸ above)
        · exact .inr (path.trans above)

end NestedFlow.Hierarchy.Stores
