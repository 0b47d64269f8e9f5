import NestedFlow.Proofs.Change
import NestedFlow.Proofs.Hierarchy.Stores

/-! Changes of a hierarchy as changes of the forest that it stores.

Every change puts a node between two neighbours, at an end of a list of children, or takes it from there.
-/

set_option autoImplicit false

namespace NestedFlow.Hierarchy

open Relation

/-- The lists of children with another list for one node. -/
def withKids (kids : Node → List Node) (parent : Node) (children : List Node) : Node → List Node :=
  fun node => if node = parent then children else kids node

theorem withKids_self (kids : Node → List Node) (parent : Node) (children : List Node) :
    withKids kids parent children parent = children := by
  rw [withKids, if_pos rfl]

theorem withKids_of_ne (kids : Node → List Node) {parent node : Node} (children : List Node) (apart : node ≠ parent) :
    withKids kids parent children node = kids node := by
  rw [withKids, if_neg apart]

theorem exists_kids (kids : Node → List Node) (parent : Node) (claim : List Node → Prop) :
    (∃ node, claim (kids node)) ↔ claim (kids parent) ∨ ∃ node, node ≠ parent ∧ claim (kids node) := by
  constructor
  · rintro ⟨node, held⟩
    by_cases same : node = parent
    · exact .inl (same ▸ held)
    · exact .inr ⟨node, same, held⟩
  · rintro (held | ⟨node, -, held⟩)
    · exact ⟨parent, held⟩
    · exact ⟨node, held⟩

theorem exists_withKids (kids : Node → List Node) (parent : Node) (children : List Node) (claim : List Node → Prop) :
    (∃ node, claim (withKids kids parent children node)) ↔
      claim children ∨ ∃ node, node ≠ parent ∧ claim (kids node) := by
  rw [exists_kids (withKids kids parent children) parent claim, withKids_self]
  apply or_congr_right
  apply exists_congr
  intro node
  apply and_congr_right
  intro apart
  rw [withKids_of_ne kids children apart]

/-! ### Putting a node between others -/

/-- The links after a node was put between two parts of the children of a parent. -/
structure Inserted (old new : Hierarchy) (before : List Node) (node : Node) (after : List Node) (parent : Node) :
    Prop where
  parents : ∀ other, new.parents.get? other = if other = node then some parent else old.parents.get? other
  firsts : ∀ other,
    new.firsts.get? other = if other = parent then (before ++ node :: after).head? else old.firsts.get? other
  lasts : ∀ other,
    new.lasts.get? other = if other = parent then (before ++ node :: after).getLast? else old.lasts.get? other
  nexts : ∀ other,
    new.nexts.get? other =
      if other = node then after.head? else if before.getLast? = some other then some node
      else old.nexts.get? other
  prevs : ∀ other,
    new.prevs.get? other =
      if other = node then before.getLast? else if after.head? = some other then some node
      else old.prevs.get? other
  counts : ∀ other,
    new.counts.get? other = if other = parent then some (before ++ node :: after).length else old.counts.get? other

/-- A node without a parent, which is not above the new one, keeps the way up finite. -/
theorem grounded_withKids {kids : Node → List Node} (grounded : WellFounded (Holds kids)) {node parent : Node}
    {before after : List Node} (split : kids parent = before ++ after) (top : ∀ other, node ∉ kids other)
    (apart : node ≠ parent) (outside : ¬ Above kids node parent) :
    WellFounded (Holds (withKids kids parent (before ++ node :: after))) := by
  have holds_iff : ∀ above below, Holds (withKids kids parent (before ++ node :: after)) above below ↔
      (above = parent ∧ below = node) ∨ Holds kids above below := by
    intro above below
    rw [Holds, Holds, withKids]
    by_cases same : above = parent
    · rw [if_pos same, same, split]
      simp only [List.mem_append, List.mem_cons]
      tauto
    · rw [if_neg same]
      simp [same]
  -- what is not below the new node goes up as before, and the parent of the new node is such a node
  have free : ∀ below, below ≠ node → ¬ Above kids node below →
      Acc (Holds (withKids kids parent (before ++ node :: after))) below := by
    intro below
    induction below using grounded.induction with
    | _ below ih =>
      intro differs unreached
      refine ⟨below, fun above holds => ?_⟩
      rcases (holds_iff above below).1 holds with ⟨-, same⟩ | held
      · exact absurd same differs
      · apply ih above held
        · rintro rfl
          exact unreached (.single held)
        · exact fun path => unreached (path.tail held)
  have atNode : Acc (Holds (withKids kids parent (before ++ node :: after))) node := by
    refine ⟨node, fun above holds => ?_⟩
    rcases (holds_iff above node).1 holds with ⟨same, -⟩ | held
    · rw [same]
      exact free parent apart.symm outside
    · exact absurd held (top above)
  refine ⟨fun below => ?_⟩
  induction below using grounded.induction with
  | _ below ih =>
    refine ⟨below, fun above holds => ?_⟩
    rcases (holds_iff above below).1 holds with ⟨same, -⟩ | held
    · rw [same]
      exact free parent apart.symm outside
    · exact ih above held

section

variable {old new : Hierarchy} {kids : Node → List Node} {before after : List Node} {node parent : Node}

/-- A node that is in neither part, and not a child of another node, has no neighbour in the parts and among the
children of others. -/
theorem not_adjacent_of_fresh (fresh : node ∉ before ++ after) (alone : ∀ other, other ≠ parent → node ∉ kids other)
    (first second : Node) (either : node = first ∨ node = second) :
    ¬ Adjacent before first second ∧ ¬ Adjacent after first second ∧
      ¬ ∃ other, other ≠ parent ∧ Adjacent (kids other) first second := by
  have absent : ∀ list : List Node, node ∉ list → ¬ Adjacent list first second := by
    rintro list outside adjacent
    rcases either with rfl | rfl
    · exact outside adjacent.mem.1
    · exact outside adjacent.mem.2
  rw [List.mem_append, not_or] at fresh
  exact ⟨absent before fresh.1, absent after fresh.2,
    fun ⟨other, differs, adjacent⟩ => absent (kids other) (alone other differs) adjacent⟩

/-- In a list with a gap between two parts, the last of the first part has no follower other than across the gap. -/
theorem Stores.not_adjacent_of_last (stores : old.Stores kids) (parts : (before ++ after).Nodup)
    (inside : ∀ item ∈ before ++ after, item ∈ kids parent) {first : Node} (last : before.getLast? = some first)
    (second : Node) : ¬ Adjacent before first second ∧ ¬ Adjacent after first second ∧
      ¬ ∃ other, other ≠ parent ∧ Adjacent (kids other) first second := by
  obtain ⟨nodup, -, disjoint⟩ := List.nodup_append.1 parts
  have early : first ∈ before := List.mem_of_getLast? last
  refine ⟨not_adjacent_getLast? nodup last second, fun adjacent => ?_, fun ⟨other, differs, adjacent⟩ => ?_⟩
  · exact disjoint first early first adjacent.mem.1 rfl
  · exact differs (stores.parent_unique adjacent.mem.1 (inside first (List.mem_append_left after early)))

/-- Neither has the first of the second part anything before it. -/
theorem Stores.not_adjacent_of_head (stores : old.Stores kids) (parts : (before ++ after).Nodup)
    (inside : ∀ item ∈ before ++ after, item ∈ kids parent) {second : Node} (head : after.head? = some second)
    (first : Node) : ¬ Adjacent before first second ∧ ¬ Adjacent after first second ∧
      ¬ ∃ other, other ≠ parent ∧ Adjacent (kids other) first second := by
  obtain ⟨-, nodup, disjoint⟩ := List.nodup_append.1 parts
  have late : second ∈ after := List.mem_of_head? head
  refine ⟨fun adjacent => ?_, not_adjacent_head? nodup head first, fun ⟨other, differs, adjacent⟩ => ?_⟩
  · exact disjoint second adjacent.mem.2 second late rfl
  · exact differs (stores.parent_unique adjacent.mem.2 (inside second (List.mem_append_right before late)))

theorem Inserted.next_iff (change : Inserted old new before node after parent) (stores : old.Stores kids)
    (split : kids parent = before ++ after) (top : ∀ other, node ∉ kids other) (first second : Node) :
    new.nexts.get? first = some second ↔
      ∃ above, Adjacent (withKids kids parent (before ++ node :: after) above) first second := by
  have fresh : node ∉ before ++ after := fun mem => top parent (split ▸ mem)
  have alone : ∀ other, other ≠ parent → node ∉ kids other := fun other _ => top other
  rw [change.nexts, exists_withKids kids parent _ fun list => Adjacent list first second, adjacent_insert]
  by_cases isNode : first = node
  · -- the node is followed by what came after the gap
    subst isNode
    obtain ⟨early, late, elsewhere⟩ := not_adjacent_of_fresh fresh alone first second (.inl rfl)
    have last : before.getLast? ≠ some first :=
      fun found => fresh (List.mem_append_left after (List.mem_of_getLast? found))
    simp [early, late, last, elsewhere]
  · rw [if_neg isNode]
    have reverse : node ≠ first := fun same => isNode same.symm
    by_cases last : before.getLast? = some first
    · obtain ⟨early, late, elsewhere⟩ := stores.not_adjacent_of_last (split ▸ stores.distinct parent)
        (fun item mem => split ▸ mem) last second
      simp [last, early, late, elsewhere, reverse]
    · rw [if_neg last, stores.next_iff, exists_kids kids parent fun list => Adjacent list first second, split,
        adjacent_append]
      simp [last, reverse]

theorem Inserted.prev_iff (change : Inserted old new before node after parent) (stores : old.Stores kids)
    (split : kids parent = before ++ after) (top : ∀ other, node ∉ kids other) (second first : Node) :
    new.prevs.get? second = some first ↔
      ∃ above, Adjacent (withKids kids parent (before ++ node :: after) above) first second := by
  have fresh : node ∉ before ++ after := fun mem => top parent (split ▸ mem)
  have alone : ∀ other, other ≠ parent → node ∉ kids other := fun other _ => top other
  rw [change.prevs, exists_withKids kids parent _ fun list => Adjacent list first second, adjacent_insert]
  by_cases isNode : second = node
  · subst isNode
    obtain ⟨early, late, elsewhere⟩ := not_adjacent_of_fresh fresh alone first second (.inr rfl)
    have head : after.head? ≠ some second :=
      fun found => fresh (List.mem_append_right before (List.mem_of_head? found))
    simp [early, late, head, elsewhere]
  · rw [if_neg isNode]
    have reverse : node ≠ second := fun same => isNode same.symm
    by_cases head : after.head? = some second
    · obtain ⟨early, late, elsewhere⟩ := stores.not_adjacent_of_head (split ▸ stores.distinct parent)
        (fun item mem => split ▸ mem) head first
      simp [head, early, late, elsewhere, reverse]
    · rw [if_neg head, stores.prev_iff, exists_kids kids parent fun list => Adjacent list first second, split,
        adjacent_append]
      simp [head, reverse]

theorem Stores.inserted (stores : old.Stores kids) (change : Inserted old new before node after parent)
    (split : kids parent = before ++ after) (top : ∀ other, node ∉ kids other) (apart : node ≠ parent)
    (outside : ¬ Above kids node parent) : new.Stores (withKids kids parent (before ++ node :: after)) := by
  have fresh : node ∉ before ++ after := fun mem => top parent (split ▸ mem)
  constructor
  case parent_iff =>
    intro child above
    rw [change.parents, withKids]
    by_cases isNode : child = node
    · rw [if_pos isNode, isNode, Option.some.injEq]
      by_cases here : above = parent
      · simp [here]
      · have reverse : parent ≠ above := fun same => here same.symm
        simp [here, top, reverse]
    · rw [if_neg isNode, stores.parent_iff]
      by_cases here : above = parent
      · rw [if_pos here, here, split]
        simp [isNode]
      · rw [if_neg here]
  case distinct =>
    intro above
    rw [withKids]
    split
    · rw [List.nodup_middle, List.nodup_cons]
      exact ⟨fresh, split ▸ stores.distinct parent⟩
    · exact stores.distinct above
  case first_eq =>
    intro above
    rw [change.firsts, withKids, stores.first_eq]
    split <;> rfl
  case last_eq =>
    intro above
    rw [change.lasts, withKids, stores.last_eq]
    split <;> rfl
  case next_iff => exact change.next_iff stores split top
  case prev_iff => exact change.prev_iff stores split top
  case count_eq =>
    intro above
    rw [change.counts, withKids, stores.count_eq]
    split
    · rw [if_neg (by simp)]
    · rfl
  case grounded => exact grounded_withKids stores.grounded split top apart outside

end

/-! ### Taking a node from its siblings -/

/-- The links after a node was taken from between two parts of the children of its parent. -/
structure Removed (old new : Hierarchy) (before : List Node) (node : Node) (after : List Node) (parent : Node) :
    Prop where
  parents : ∀ other, new.parents.get? other = if other = node then none else old.parents.get? other
  firsts : ∀ other, new.firsts.get? other = if other = parent then (before ++ after).head? else old.firsts.get? other
  lasts : ∀ other, new.lasts.get? other = if other = parent then (before ++ after).getLast? else old.lasts.get? other
  nexts : ∀ other,
    new.nexts.get? other =
      if other = node then none else if before.getLast? = some other then after.head? else old.nexts.get? other
  prevs : ∀ other,
    new.prevs.get? other =
      if other = node then none else if after.head? = some other then before.getLast? else old.prevs.get? other
  counts : ∀ other,
    new.counts.get? other =
      if other = parent then (if before ++ after = [] then none else some (before ++ after).length)
      else old.counts.get? other

section

variable {old new : Hierarchy} {kids : Node → List Node} {before after : List Node} {node parent : Node}

/-- What is left when a node is taken from its siblings are distinct children of its parent other than the node. -/
theorem Stores.parts_of_split (stores : old.Stores kids) (split : kids parent = before ++ node :: after) :
    node ∉ before ++ after ∧ (before ++ after).Nodup ∧ (∀ item ∈ before ++ after, item ∈ kids parent) ∧
      ∀ other, other ≠ parent → node ∉ kids other := by
  have distinct := stores.distinct parent
  rw [split, List.nodup_middle, List.nodup_cons] at distinct
  refine ⟨distinct.1, distinct.2, fun item mem => ?_, fun other differs held => differs (stores.parent_unique held ?_)⟩
  · rw [split, List.mem_append, List.mem_cons]
    rw [List.mem_append] at mem
    exact mem.imp_right .inr
  · rw [split]
    exact List.mem_append_right before List.mem_cons_self

theorem Removed.next_iff (change : Removed old new before node after parent) (stores : old.Stores kids)
    (split : kids parent = before ++ node :: after) (first second : Node) :
    new.nexts.get? first = some second ↔
      ∃ above, Adjacent (withKids kids parent (before ++ after) above) first second := by
  obtain ⟨fresh, parts, inside, alone⟩ := stores.parts_of_split split
  rw [change.nexts, exists_withKids kids parent _ fun list => Adjacent list first second, adjacent_append]
  by_cases isNode : first = node
  · -- the node is nowhere among the children any more
    subst isNode
    obtain ⟨early, late, elsewhere⟩ := not_adjacent_of_fresh fresh alone first second (.inl rfl)
    have last : before.getLast? ≠ some first :=
      fun found => fresh (List.mem_append_left after (List.mem_of_getLast? found))
    simp [early, late, last, elsewhere]
  · rw [if_neg isNode]
    have reverse : node ≠ first := fun same => isNode same.symm
    by_cases last : before.getLast? = some first
    · obtain ⟨early, late, elsewhere⟩ := stores.not_adjacent_of_last parts inside last second
      simp [last, early, late, elsewhere]
    · rw [if_neg last, stores.next_iff, exists_kids kids parent fun list => Adjacent list first second, split,
        adjacent_insert]
      simp [last, reverse]

theorem Removed.prev_iff (change : Removed old new before node after parent) (stores : old.Stores kids)
    (split : kids parent = before ++ node :: after) (second first : Node) :
    new.prevs.get? second = some first ↔
      ∃ above, Adjacent (withKids kids parent (before ++ after) above) first second := by
  obtain ⟨fresh, parts, inside, alone⟩ := stores.parts_of_split split
  rw [change.prevs, exists_withKids kids parent _ fun list => Adjacent list first second, adjacent_append]
  by_cases isNode : second = node
  · subst isNode
    obtain ⟨early, late, elsewhere⟩ := not_adjacent_of_fresh fresh alone first second (.inr rfl)
    have head : after.head? ≠ some second :=
      fun found => fresh (List.mem_append_right before (List.mem_of_head? found))
    simp [early, late, head, elsewhere]
  · rw [if_neg isNode]
    have reverse : node ≠ second := fun same => isNode same.symm
    by_cases head : after.head? = some second
    · obtain ⟨early, late, elsewhere⟩ := stores.not_adjacent_of_head parts inside head first
      simp [head, early, late, elsewhere]
    · rw [if_neg head, stores.prev_iff, exists_kids kids parent fun list => Adjacent list first second, split,
        adjacent_insert]
      simp [head, reverse]

theorem Stores.removed (stores : old.Stores kids) (change : Removed old new before node after parent)
    (split : kids parent = before ++ node :: after) : new.Stores (withKids kids parent (before ++ after)) := by
  obtain ⟨fresh, parts, -, alone⟩ := stores.parts_of_split split
  rw [List.mem_append, not_or] at fresh
  constructor
  case parent_iff =>
    intro child above
    rw [change.parents, withKids]
    by_cases isNode : child = node
    · rw [if_pos isNode, isNode]
      by_cases here : above = parent
      · simp [here, fresh.1, fresh.2]
      · simp [here, alone above here]
    · rw [if_neg isNode, stores.parent_iff]
      by_cases here : above = parent
      · rw [if_pos here, here, split]
        simp [isNode]
      · rw [if_neg here]
  case distinct =>
    intro above
    rw [withKids]
    split
    · exact parts
    · exact stores.distinct above
  case first_eq =>
    intro above
    rw [change.firsts, withKids, stores.first_eq]
    split <;> rfl
  case last_eq =>
    intro above
    rw [change.lasts, withKids, stores.last_eq]
    split <;> rfl
  case next_iff => exact change.next_iff stores split
  case prev_iff => exact change.prev_iff stores split
  case count_eq =>
    intro above
    rw [change.counts, withKids, stores.count_eq]
    split <;> rfl
  case grounded =>
    -- every way up was a way up before
    apply Subrelation.wf _ stores.grounded
    intro above below holds
    rw [Holds, withKids] at holds
    split at holds
    · rename_i here
      rw [Holds, here, split]
      simp only [List.mem_append, List.mem_cons] at holds ⊢
      tauto
    · exact holds

end

end NestedFlow.Hierarchy
