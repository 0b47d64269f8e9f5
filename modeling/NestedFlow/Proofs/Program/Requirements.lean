import NestedFlow.Proofs.ExtensionSet
import NestedFlow.Proofs.Program.Questions
import NestedFlow.Proofs.Program.Removal

/-! The requirements of a program whose structures agree.

They always exist, and are determined by equations: the requirement of a container is the union of the shares of its
children. What is undeclared, and whether anything is missing, is said in terms of the requirements.
-/

set_option autoImplicit false

namespace NestedFlow

open Hierarchy

namespace Requirements

/-- The requirement that was found for a node; nothing for a node that is no container. -/
def need (found : Requirements) (node : Node) : ExtensionSet := found.required.getD node ∅

/-- One more container is done. -/
def extended (found : Requirements) (op : Op) (node : Node) (required : ExtensionSet) : Requirements where
  required := found.required.insert node required
  undeclared :=
    if op.isAnnotatable = true ∧ op.delta? = none then found.undeclared.insert node required else found.undeclared
  missing :=
    if op.delta?.all required.subset then found.missing
    else found.missing ++ [(node, (op.delta?.getD ∅).missingFrom required)]

theorem errors_eq_nil_iff {found : Requirements} : found.errors = [] ↔ found.missing = [] := List.map_eq_nil_iff

end Requirements

namespace Program

def IsContainer (program : Program) (node : Node) : Prop :=
  ∃ op, program.ops.get? node = some op ∧ op.isContainer = true

/-- A node that could declare its requirement, and does not. -/
def IsOpen (program : Program) (node : Node) : Prop :=
  ∃ op, program.ops.get? node = some op ∧ op.isAnnotatable = true ∧ op.delta? = none

theorem IsOpen.isContainer {program : Program} {node : Node} (isOpen : program.IsOpen node) :
    program.IsContainer node := by
  obtain ⟨op, found, annotatable, -⟩ := isOpen
  exact ⟨op, found, Op.isContainer_of_isAnnotatable annotatable⟩

/-- If a node is a container with a declared set, then the set includes the requirement of the node. -/
def Covers (program : Program) (need : Node → ExtensionSet) (node : Node) : Prop :=
  ∀ op declared, program.ops.get? node = some op → op.isContainer = true → op.delta? = some declared →
    (need node).Included declared

/-- What a child adds to the requirement of its parent, given the requirements of containers. -/
def share (program : Program) (need : Node → ExtensionSet) (child : Node) : ExtensionSet :=
  match program.ops.get? child with
  | none => ∅
  | some op => if op.isDefinition then ∅ else op.delta?.getD (need child)

theorem share_congr {program : Program} {need others : Node → ExtensionSet} {child : Node}
    (same : others child = need child) : program.share others child = program.share need child := by
  rw [share, share, same]

/-- What has been found when some nodes are done, children before their parents. -/
structure Tally (program : Program) (kids : Node → List Node) (done : List Node) (found : Requirements) : Prop where
  required_iff : ∀ node set, found.required.get? node = some set ↔ node ∈ done ∧ program.IsContainer node ∧
    set = ExtensionSet.unionAll ((kids node).map (program.share found.need))
  undeclared_iff : ∀ node set, found.undeclared.get? node = some set ↔
    node ∈ done ∧ program.IsOpen node ∧ set = found.need node
  missing_iff : found.missing = [] ↔ ∀ node ∈ done, program.Covers found.need node

namespace AgreesOn

variable {program : Program} {kids : Node → List Node}

theorem contribution_eq (agrees : program.AgreesOn kids) (required : Table Node ExtensionSet) {child : Node}
    (live : program.graph.contains child = true) :
    program.contribution required child = .ok (program.share (fun node => required.getD node ∅) child) := by
  obtain ⟨op, found⟩ := agrees.get?_of_contains live
  rw [contribution, agrees.op_eq_ok_iff.2 found, Outcome.ok_bind, share, found]
  simp only
  split
  · rfl
  · cases op.delta? <;> rfl

/-- The node is done next: it is new, its children are done, and so are those of the nodes that are done. -/
structure Next (kids : Node → List Node) (done : List Node) (node : Node) : Prop where
  fresh : node ∉ done
  children : ∀ child ∈ kids node, child ∈ done
  closed : ∀ other ∈ done, ∀ child ∈ kids other, child ∈ done

theorem tally_of_leaf {done : List Node} {node : Node} {found : Requirements}
    (tally : program.Tally kids done found) (leaf : ¬ program.IsContainer node) :
    program.Tally kids (done ++ [node]) found where
  required_iff other set := by
    rw [tally.required_iff, List.mem_append, List.mem_singleton]
    constructor
    · exact fun ⟨mem, further⟩ => ⟨.inl mem, further⟩
    · rintro ⟨mem | rfl, container, same⟩
      · exact ⟨mem, container, same⟩
      · exact absurd container leaf
  undeclared_iff other set := by
    rw [tally.undeclared_iff, List.mem_append, List.mem_singleton]
    constructor
    · exact fun ⟨mem, further⟩ => ⟨.inl mem, further⟩
    · rintro ⟨mem | rfl, isOpen, same⟩
      · exact ⟨mem, isOpen, same⟩
      · exact absurd isOpen.isContainer leaf
  missing_iff := by
    rw [tally.missing_iff, List.forall_mem_append, List.forall_mem_singleton]
    exact (and_iff_left fun op declared isOp container _ => absurd ⟨op, isOp, container⟩ leaf).symm

section

variable {done : List Node} {node : Node} {op : Op} {found : Requirements}

theorem requireNode_of_leaf (agrees : program.AgreesOn kids) (isOp : program.ops.get? node = some op)
    (leaf : op.isContainer = false) : program.requireNode found node = .ok found := by
  rw [requireNode, agrees.op_eq_ok_iff.2 isOp, Outcome.ok_bind, leaf]
  rfl

theorem requireNode_of_container (agrees : program.AgreesOn kids) (isOp : program.ops.get? node = some op)
    (container : op.isContainer = true) :
    program.requireNode found node =
      .ok (found.extended op node (ExtensionSet.unionAll ((kids node).map (program.share found.need)))) := by
  have parts : (kids node).mapM (program.contribution found.required) =
      .ok ((kids node).map (program.share found.need)) :=
    Outcome.mapM_of_forall fun child isChild =>
      agrees.contribution_eq found.required (agrees.kids_live node child isChild).1
  rw [requireNode, agrees.op_eq_ok_iff.2 isOp, Outcome.ok_bind, container,
    agrees.children_eq (agrees.contains_of_get? isOp)]
  simp only [Bool.not_true, Bool.false_eq_true, if_false, Outcome.ok_bind, parts, Requirements.extended]
  cases op.delta? with
  | none => cases op.isAnnotatable <;> rfl
  | some declared =>
    simp only [Option.all_some, Option.getD_some, reduceCtorEq, and_false, if_false]
    split <;> rfl

/-- The requirements of what is done stay, since the next node is nobody's child yet. -/
theorem need_extended (required : ExtensionSet) (other : Node) :
    (found.extended op node required).need other = if other = node then required else found.need other := by
  rw [Requirements.need, Requirements.extended, Table.getD_eq, Table.get?_insert_eq]
  split <;> rfl

theorem map_share_extended (next : Next kids done node) (required : ExtensionSet) {children : List Node}
    (inside : ∀ child ∈ children, child ∈ done) :
    children.map (program.share (found.extended op node required).need) =
      children.map (program.share found.need) := by
  apply List.map_congr_left
  intro child mem
  apply share_congr
  rw [need_extended, if_neg]
  rintro rfl
  exact next.fresh (inside child mem)

theorem isOpen_iff (isOp : program.ops.get? node = some op) :
    program.IsOpen node ↔ op.isAnnotatable = true ∧ op.delta? = none := by
  rw [IsOpen, isOp]
  simp only [Option.some.injEq, exists_eq_left']

theorem covers_iff (isOp : program.ops.get? node = some op) (container : op.isContainer = true)
    (need : Node → ExtensionSet) :
    program.Covers need node ↔ op.delta?.all (need node).subset = true := by
  rw [Covers, isOp, Option.all_eq_true]
  simp only [ExtensionSet.subset_iff]
  constructor
  · exact fun covers declared => covers op declared rfl container
  · rintro covers other declared same _ declares
    exact covers declared (Option.some.inj same ▸ declares)

theorem undeclared_extended (tally : program.Tally kids done found) (next : Next kids done node)
    (isOp : program.ops.get? node = some op) (required : ExtensionSet) (other : Node) (set : ExtensionSet) :
    (found.extended op node required).undeclared.get? other = some set ↔
      other ∈ done ++ [node] ∧ program.IsOpen other ∧ set = (found.extended op node required).need other := by
  rw [need_extended, List.mem_append, List.mem_singleton, Requirements.extended]
  by_cases here : other = node
  · subst here
    rw [if_pos rfl, isOpen_iff isOp]
    split
    · rename_i isOpen
      rw [Table.get?_insert_eq, if_pos rfl, Option.some.injEq]
      exact ⟨fun same => ⟨.inr rfl, isOpen, same.symm⟩, fun held => held.2.2.symm⟩
    · rename_i closed
      rw [tally.undeclared_iff]
      exact iff_of_false (fun held => next.fresh held.1) fun held => closed held.2.1
  · simp only [here, or_false, if_false]
    rw [← tally.undeclared_iff]
    split
    · rw [Table.get?_insert_eq, if_neg here]
    · rfl

theorem missing_extended (tally : program.Tally kids done found) (next : Next kids done node)
    (isOp : program.ops.get? node = some op) (container : op.isContainer = true) (required : ExtensionSet) :
    (found.extended op node required).missing = [] ↔
      ∀ other ∈ done ++ [node], program.Covers (found.extended op node required).need other := by
  have old : (∀ other ∈ done, program.Covers (found.extended op node required).need other) ↔ found.missing = [] := by
    rw [tally.missing_iff]
    refine forall_congr' fun other => forall_congr' fun mem => ?_
    have apart : other ≠ node := fun same => next.fresh (same ▸ mem)
    rw [Covers, Covers, need_extended, if_neg apart]
  rw [List.forall_mem_append, List.forall_mem_singleton, old, covers_iff isOp container, need_extended, if_pos rfl]
  simp only [Requirements.extended]
  split
  · rename_i enough
    simp [enough]
  · rename_i small
    simp [small]

theorem required_extended (tally : program.Tally kids done found) (next : Next kids done node)
    (isOp : program.ops.get? node = some op) (container : op.isContainer = true) {required : ExtensionSet}
    (isUnion : required = ExtensionSet.unionAll ((kids node).map (program.share found.need))) (other : Node)
    (set : ExtensionSet) :
    (found.extended op node required).required.get? other = some set ↔
      other ∈ done ++ [node] ∧ program.IsContainer other ∧
        set = ExtensionSet.unionAll ((kids other).map (program.share (found.extended op node required).need)) := by
  have inserted : (found.extended op node required).required = found.required.insert node required := rfl
  rw [inserted, Table.get?_insert_eq, List.mem_append, List.mem_singleton]
  by_cases here : other = node
  · rw [if_pos here, here, map_share_extended next _ next.children, ← isUnion, Option.some.injEq]
    exact ⟨fun same => ⟨.inr rfl, ⟨op, isOp, container⟩, same.symm⟩, fun held => held.2.2.symm⟩
  · simp only [here, or_false, if_false]
    rw [tally.required_iff]
    refine and_congr_right fun mem => ?_
    rw [map_share_extended next _ (next.closed other mem)]

/-- One more node is done. -/
theorem exists_requireNode (agrees : program.AgreesOn kids) (tally : program.Tally kids done found)
    (next : Next kids done node) (live : program.graph.contains node = true) :
    ∃ new, program.requireNode found node = .ok new ∧ program.Tally kids (done ++ [node]) new := by
  obtain ⟨op, isOp⟩ := agrees.get?_of_contains live
  cases container : op.isContainer with
  | true =>
    refine ⟨_, agrees.requireNode_of_container isOp container, ?_, ?_, ?_⟩
    · exact required_extended tally next isOp container rfl
    · exact undeclared_extended tally next isOp _
    · exact missing_extended tally next isOp container _
  | false =>
    refine ⟨found, agrees.requireNode_of_leaf isOp container, tally_of_leaf tally ?_⟩
    rintro ⟨other, held, isContainer⟩
    rw [Option.some.inj (held.symm.trans isOp), container] at isContainer
    cases isContainer

end

/-- Going backwards through a tree, every node is new and comes after its children. -/
theorem next_of_split (agrees : program.AgreesOn kids) {root : Node} {done rest : List Node} {node : Node}
    (split : (program.hierarchy.descendants root).reverse = done ++ node :: rest) : Next kids done node := by
  have distinct : (done ++ node :: rest).Nodup := by
    rw [← split, List.nodup_reverse]
    exact agrees.stores.nodup_descendants root
  have ordered : (done ++ node :: rest).Pairwise fun later earlier => ¬ Above kids later earlier := by
    rw [← split, List.pairwise_reverse]
    exact agrees.stores.descendants_ordered root
  have inside : ∀ above ∈ done ++ node :: rest, ∀ child ∈ kids above, child ∈ done ++ node :: rest := by
    intro above mem child isChild
    rw [← split, List.mem_reverse] at mem ⊢
    exact agrees.stores.mem_descendants_of_child mem isChild
  -- what comes first holds its children: they are in the tree, and nothing that comes later is below what comes first
  have earlier : ∀ first last : List Node, done ++ node :: rest = first ++ last →
      ∀ above ∈ first, ∀ child ∈ kids above, child ∈ first := by
    intro first last parts above mem child isChild
    have among := inside above (parts ▸ List.mem_append_left last mem) child isChild
    rw [parts] at among ordered
    rcases List.mem_append.1 among with before | after
    · exact before
    · exact absurd (.single isChild) ((List.pairwise_append.1 ordered).2.2 above mem child after)
  refine ⟨not_mem_of_split distinct, fun child isChild => ?_, earlier done (node :: rest) rfl⟩
  -- the node itself comes first too, and is not its own child
  have among := earlier (done ++ [node]) rest (by simp) node (by simp) child isChild
  rw [List.mem_append, List.mem_singleton] at among
  rcases among with before | same
  · exact before
  · rw [same] at isChild
    exact absurd (.single isChild) (agrees.stores.not_above_self node)

/-- The requirements of the tree under the root. -/
theorem exists_requirements (agrees : program.AgreesOn kids) :
    ∃ found, program.requirements = .ok found ∧
      program.Tally kids (program.hierarchy.descendants program.root).reverse found := by
  rw [requirements, agrees.descendants_eq agrees.root_live, Outcome.ok_bind]
  apply Outcome.foldlM_reaches (program.Tally kids)
  · intro done node rest before split tally
    apply agrees.exists_requireNode tally (agrees.next_of_split split)
    have mem : node ∈ (program.hierarchy.descendants program.root).reverse := by
      rw [split]
      exact List.mem_append_right done List.mem_cons_self
    rw [List.mem_reverse, agrees.stores.mem_descendants] at mem
    exact agrees.contains_of_below agrees.root_live mem
  · refine ⟨fun node set => ?_, fun node set => ?_, ?_⟩
    · exact iff_of_false (fun found => by cases found) fun held => List.not_mem_nil held.1
    · exact iff_of_false (fun found => by cases found) fun held => List.not_mem_nil held.1
    · exact iff_of_true rfl fun node mem => absurd mem List.not_mem_nil

end AgreesOn

end Program

end NestedFlow
