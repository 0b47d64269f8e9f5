import NestedFlow.Proofs.Hierarchy.Changes
import NestedFlow.Proofs.Outcome

/-! What attaching and detaching do to a hierarchy that stores a forest, and when they fail. -/

set_option autoImplicit false

namespace NestedFlow.Hierarchy

variable {hierarchy : Hierarchy} {kids : Node → List Node} {node parent : Node}

/-- A node without a parent that is not the new parent and not above it. -/
def Attachable (kids : Node → List Node) (node parent : Node) : Prop :=
  (∀ other, node ∉ kids other) ∧ node ≠ parent ∧ ¬ Above kids node parent

/-- The lists of children without one node. -/
def withoutChild (kids : Node → List Node) (node : Node) : Node → List Node := fun parent => (kids parent).erase node

theorem exists_relink {table : Table Node Node} {key : Node} {target : Option Node}
    (present : target = none → key ∈ table.keys) :
    ∃ new, relink table key target = .ok new ∧
      ∀ other, new.get? other = if other = key then target else table.get? other := by
  cases target with
  | some value => exact ⟨table.insert key value, rfl, fun other => table.get?_insert_eq key other value⟩
  | none =>
    obtain ⟨value, found⟩ := (table.mem_keys_iff_get? key).1 (present rfl)
    refine ⟨table.erase key, ?_, fun other => table.get?_erase_eq key other⟩
    rw [relink, drop, found]
    rfl

/-- The links that lead into a gap among the children of a node. They are there to be dropped where nothing stands on
the other side. -/
structure Gap (hierarchy : Hierarchy) (parent : Node) (prev next : Option Node) : Prop where
  first : prev = none → next = none → parent ∈ hierarchy.firsts.keys
  last : next = none → prev = none → parent ∈ hierarchy.lasts.keys
  following : ∀ node, prev = some node → next = none → node ∈ hierarchy.nexts.keys
  preceding : ∀ node, next = some node → prev = none → node ∈ hierarchy.prevs.keys

/-- The neighbours on both sides of a gap get linked; an end of the children is recorded where one of them is absent. -/
theorem run_bridge {prev next : Option Node} (gap : Gap hierarchy parent prev next) :
    ∃ firsts lasts nexts prevs, (bridge parent prev next).run hierarchy =
        .ok () ⟨hierarchy.parents, firsts, lasts, nexts, prevs, hierarchy.counts⟩ ∧
      (∀ other, firsts.get? other = if prev = none ∧ other = parent then next else hierarchy.firsts.get? other) ∧
      (∀ other, lasts.get? other = if next = none ∧ other = parent then prev else hierarchy.lasts.get? other) ∧
      (∀ other, nexts.get? other = if prev = some other then next else hierarchy.nexts.get? other) ∧
      (∀ other, prevs.get? other = if next = some other then prev else hierarchy.prevs.get? other) := by
  -- on each side a neighbour gets linked, or the parent records an end
  cases prev with
  | none =>
    obtain ⟨firsts, relinked, firsts_eq⟩ := exists_relink (gap.first rfl)
    cases next with
    | none =>
      obtain ⟨lasts, again, lasts_eq⟩ := @exists_relink hierarchy.lasts parent none fun _ => gap.last rfl rfl
      refine ⟨firsts, lasts, hierarchy.nexts, hierarchy.prevs, ?_, ?_, ?_, ?_, ?_⟩
      · simp only [bridge, Change.run_ask_bind, relinked, Change.run_modify_bind, again, Change.run_modify]
      · simpa using firsts_eq
      · simpa using lasts_eq
      · simp
      · simp
    | some next =>
      obtain ⟨prevs, again, prevs_eq⟩ := @exists_relink hierarchy.prevs next none fun _ => gap.preceding next rfl rfl
      refine ⟨firsts, hierarchy.lasts, hierarchy.nexts, prevs, ?_, ?_, ?_, ?_, ?_⟩
      · simp only [bridge, Change.run_ask_bind, relinked, Change.run_modify_bind, again, Change.run_modify]
      · simpa using firsts_eq
      · simp
      · simp
      · simpa [eq_comm] using prevs_eq
  | some prev =>
    obtain ⟨nexts, relinked, nexts_eq⟩ := exists_relink (gap.following prev rfl)
    cases next with
    | none =>
      obtain ⟨lasts, again, lasts_eq⟩ := @exists_relink hierarchy.lasts parent (some prev) (by simp)
      refine ⟨hierarchy.firsts, lasts, nexts, hierarchy.prevs, ?_, ?_, ?_, ?_, ?_⟩
      · simp only [bridge, Change.run_ask_bind, relinked, Change.run_modify_bind, again, Change.run_modify]
      · simp
      · simpa using lasts_eq
      · simpa [eq_comm] using nexts_eq
      · simp
    | some next =>
      obtain ⟨prevs, again, prevs_eq⟩ := @exists_relink hierarchy.prevs next (some prev) (by simp)
      refine ⟨hierarchy.firsts, hierarchy.lasts, nexts, prevs, ?_, ?_, ?_, ?_, ?_⟩
      · simp only [bridge, Change.run_ask_bind, relinked, Change.run_modify_bind, again, Change.run_modify]
      · simp
      · simp
      · simpa [eq_comm] using nexts_eq
      · simpa [eq_comm] using prevs_eq

/-- The hierarchy without the links from a node to its parent and to its neighbours. -/
def unlinked (hierarchy : Hierarchy) (node : Node) : Hierarchy :=
  { hierarchy with
    parents := hierarchy.parents.erase node
    prevs := hierarchy.prevs.erase node
    nexts := hierarchy.nexts.erase node }

theorem run_detach_of_top (top : hierarchy.parent? node = none) : (detach node).run hierarchy = .ok none hierarchy := by
  simp only [detach, Change.run_get_bind, top]
  rfl

theorem withoutChild_of_top (top : ∀ parent, node ∉ kids parent) : withoutChild kids node = kids :=
  funext fun parent => List.erase_of_not_mem (top parent)

namespace Stores

theorem checkAttachable_eq_ok_iff (stores : hierarchy.Stores kids) :
    hierarchy.checkAttachable node parent = .ok () ↔ Attachable kids node parent := by
  rw [checkAttachable, Attachable, ← stores.parent?_eq_none_iff, ← stores.isAncestor_iff]
  cases hierarchy.parent? node with
  | some current => simp [failAt]
  | none =>
    simp only [true_and]
    split
    · rename_i refused
      simp only [failAt, reduceCtorEq, false_iff]
      tauto
    · rename_i allowed
      simp only [Outcome.pure_eq, true_iff]
      tauto

theorem next_of_top (stores : hierarchy.Stores kids) (top : ∀ other, node ∉ kids other) :
    hierarchy.nexts.get? node = none := by
  rw [Option.eq_none_iff_forall_ne_some]
  intro next found
  obtain ⟨above, adjacent⟩ := (stores.next_iff node next).1 found
  exact top above adjacent.mem.1

theorem prev_of_top (stores : hierarchy.Stores kids) (top : ∀ other, node ∉ kids other) :
    hierarchy.prevs.get? node = none := by
  rw [Option.eq_none_iff_forall_ne_some]
  intro prev found
  obtain ⟨above, adjacent⟩ := (stores.prev_iff node prev).1 found
  exact top above adjacent.mem.2

/-- The first child stays the first one when a node comes behind it. -/
theorem firsts_of_behind (stores : hierarchy.Stores kids) {before after : List Node}
    (split : kids parent = before ++ after) (behind : before ≠ []) (node other : Node) :
    hierarchy.firsts.get? other =
      if other = parent then (before ++ node :: after).head? else hierarchy.firsts.get? other := by
  by_cases here : other = parent
  · rw [if_pos here, here, stores.first_eq, split, List.head?_append_of_ne_nil _ behind,
      List.head?_append_of_ne_nil _ behind]
  · rw [if_neg here]

/-- The last child stays the last one when a node comes ahead of it. -/
theorem lasts_of_ahead (stores : hierarchy.Stores kids) {before after : List Node}
    (split : kids parent = before ++ after) (ahead : after ≠ []) (node other : Node) :
    hierarchy.lasts.get? other =
      if other = parent then (before ++ node :: after).getLast? else hierarchy.lasts.get? other := by
  by_cases here : other = parent
  · rw [if_pos here, here, stores.last_eq, split, List.append_cons, List.getLast?_append_of_ne_nil _ ahead,
      List.getLast?_append_of_ne_nil _ ahead]
  · rw [if_neg here]

theorem run_pushChild (stores : hierarchy.Stores kids) (attachable : Attachable kids node parent) :
    ∃ new, (pushChild node parent).run hierarchy = .ok () new ∧
      Inserted hierarchy new (kids parent) node [] parent := by
  have last : hierarchy.lastChild? parent = (kids parent).getLast? := stores.last_eq parent
  have count : hierarchy.numChildren parent + 1 = (kids parent ++ [node]).length := by
    rw [stores.numChildren_eq, List.length_append, List.length_singleton]
  have noNext := stores.next_of_top attachable.1
  have noPrev := stores.prev_of_top attachable.1
  simp only [pushChild, Change.run_ask_bind, stores.checkAttachable_eq_ok_iff.2 attachable, Change.run_get_bind, last]
  -- without children the node is the first one too, otherwise it follows the last one
  cases ends : (kids parent).getLast? with
  | none =>
    have nothing : kids parent = [] := List.getLast?_eq_none_iff.1 ends
    simp only [Change.run_modify_bind, Change.run_modify]
    refine ⟨_, rfl, ?_⟩
    constructor <;> intro other
    case parents => exact Table.get?_insert_eq ..
    case firsts =>
      rw [nothing]
      exact Table.get?_insert_eq ..
    case lasts =>
      rw [nothing]
      exact Table.get?_insert_eq ..
    case nexts =>
      rw [ends]
      by_cases same : other = node <;> simp [same, noNext]
    case prevs =>
      rw [ends]
      by_cases same : other = node <;> simp [same, noPrev]
    case counts =>
      rw [← count]
      exact Table.get?_insert_eq ..
  | some final =>
    have present : final ∈ kids parent := List.mem_of_getLast? ends
    have apart : node ≠ final := fun same => attachable.1 parent (same ▸ present)
    simp only [Change.run_modify_bind, Change.run_modify]
    refine ⟨_, rfl, ?_⟩
    constructor <;> intro other
    case parents => exact Table.get?_insert_eq ..
    case firsts => exact stores.firsts_of_behind (List.append_nil _).symm (List.ne_nil_of_mem present) node other
    case lasts =>
      rw [List.getLast?_append]
      exact Table.get?_insert_eq ..
    case nexts =>
      rw [ends]
      by_cases same : other = node
      · subst same
        simp [noNext, apart.symm]
      · simp [same]
    case prevs =>
      rw [ends]
      by_cases same : other = node
      · simp [same]
      · have reverse : node ≠ other := fun back => same back.symm
        simp [same, reverse]
    case counts =>
      rw [← count]
      exact Table.get?_insert_eq ..

theorem run_pushChild_of_not (stores : hierarchy.Stores kids) (refused : ¬ Attachable kids node parent) :
    ∃ error, (pushChild node parent).run hierarchy = .error error hierarchy := by
  cases checked : hierarchy.checkAttachable node parent with
  | ok _ => exact absurd (stores.checkAttachable_eq_ok_iff.1 checked) refused
  | error error =>
    refine ⟨error, ?_⟩
    simp only [pushChild, Change.run_ask_bind, checked]

theorem run_insertBefore (stores : hierarchy.Stores kids) {sibling : Node} {before after : List Node}
    (split : kids parent = before ++ sibling :: after) (attachable : Attachable kids node parent) :
    ∃ new, (insertBefore node sibling).run hierarchy = .ok () new ∧
      Inserted hierarchy new before node (sibling :: after) parent := by
  have isChild : sibling ∈ kids parent := by
    rw [split]
    exact List.mem_append_right before List.mem_cons_self
  have above : hierarchy.parent? sibling = some parent := (stores.parent_iff sibling parent).2 isChild
  have prev : hierarchy.prevSibling? sibling = before.getLast? := stores.prev_eq split
  have apart : node ≠ sibling := fun same => attachable.1 parent (same ▸ isChild)
  have count : hierarchy.counts.get? parent = some (before ++ sibling :: after).length := by
    rw [stores.count_eq, split, if_neg (by simp)]
  have counted : (before ++ node :: sibling :: after).length = (before ++ sibling :: after).length + 1 := by
    simp only [List.length_append, List.length_cons]
    omega
  have noNext := stores.next_of_top attachable.1
  have noPrev := stores.prev_of_top attachable.1
  simp only [insertBefore, Change.run_ask_bind, Change.run_get_bind, above, prev,
    stores.checkAttachable_eq_ok_iff.2 attachable]
  -- before the first child the record of the first child changes, elsewhere a link between neighbours
  cases final : before.getLast? with
  | none =>
    have nothing : before = [] := List.getLast?_eq_none_iff.1 final
    subst nothing
    simp only [Change.run_modify_bind, Change.run_ask_bind, count, require, Outcome.pure_eq, Change.run_modify]
    refine ⟨_, rfl, ?_⟩
    constructor <;> intro other
    case parents => exact Table.get?_insert_eq ..
    case firsts => exact Table.get?_insert_eq ..
    case lasts => exact stores.lasts_of_ahead split (List.cons_ne_nil sibling after) node other
    case nexts => simp only [Table.get?_insert_eq, List.head?_cons, List.getLast?_nil, reduceCtorEq, if_false]
    case prevs =>
      simp only [Table.get?_insert_eq, List.head?_cons, List.getLast?_nil, Option.some.injEq]
      by_cases same : other = node
      · rw [if_pos same, same, if_neg apart, noPrev]
      · rw [if_neg same]
        simp only [eq_comm]
    case counts =>
      rw [counted]
      exact Table.get?_insert_eq ..
  | some last =>
    have inside : last ∈ before := List.mem_of_getLast? final
    have differs : node ≠ last := by
      rintro rfl
      apply attachable.1 parent
      rw [split]
      exact List.mem_append_left _ inside
    have distinct := stores.distinct parent
    rw [split] at distinct
    have ordered : last ≠ sibling := (List.nodup_append.1 distinct).2.2 last inside sibling List.mem_cons_self
    simp only [Change.run_modify_bind, Change.run_ask_bind, count, require, Outcome.pure_eq, Change.run_modify]
    refine ⟨_, rfl, ?_⟩
    constructor <;> intro other
    case parents => exact Table.get?_insert_eq ..
    case firsts => exact stores.firsts_of_behind split (List.ne_nil_of_mem inside) node other
    case lasts => exact stores.lasts_of_ahead split (List.cons_ne_nil sibling after) node other
    case nexts => simp only [Table.get?_insert_eq, List.head?_cons, final, Option.some.injEq, eq_comm]
    case prevs =>
      simp only [Table.get?_insert_eq, List.head?_cons, final, Option.some.injEq]
      by_cases isNode : other = node
      · rw [if_pos isNode, isNode, if_neg apart, if_pos rfl]
      · rw [if_neg isNode, if_neg isNode]
        simp only [eq_comm]
    case counts =>
      rw [counted]
      exact Table.get?_insert_eq ..

theorem run_insertBefore_of_not (stores : hierarchy.Stores kids) {sibling : Node}
    (refused : ∀ parent, sibling ∈ kids parent → ¬ Attachable kids node parent) :
    ∃ error, (insertBefore node sibling).run hierarchy = .error error hierarchy := by
  cases above : hierarchy.parent? sibling with
  | none =>
    refine ⟨.onNode (.shape (.insertBeforeTop sibling)) sibling, ?_⟩
    simp only [insertBefore, Change.run_get_bind, above]
    rfl
  | some parent =>
    cases checked : hierarchy.checkAttachable node parent with
    | ok _ =>
      exact absurd (stores.checkAttachable_eq_ok_iff.1 checked) (refused parent ((stores.parent_iff _ _).1 above))
    | error error =>
      refine ⟨error, ?_⟩
      simp only [insertBefore, Change.run_get_bind, above, Change.run_ask_bind, checked]

/-- A node that loses its own links leaves a gap between its neighbours. -/
theorem gap_unlinked (stores : hierarchy.Stores kids) {before after : List Node}
    (split : kids parent = before ++ node :: after) :
    Gap (hierarchy.unlinked node) parent before.getLast? after.head? := by
  have filled : kids parent ≠ [] := by
    rw [split]
    exact List.append_ne_nil_of_right_ne_nil before (List.cons_ne_nil node after)
  obtain ⟨fresh, -⟩ := stores.parts_of_split split
  rw [List.mem_append, not_or] at fresh
  constructor
  case first =>
    intro _ _
    exact Table.mem_keys_of_get? ((stores.first_eq parent).trans (List.head?_eq_some_head filled))
  case last =>
    intro _ _
    exact Table.mem_keys_of_get? ((stores.last_eq parent).trans (List.getLast?_eq_some_getLast filled))
  case following =>
    intro other ends _
    -- the neighbour was linked to the node, which is another one
    have apart : other ≠ node := fun same => fresh.1 (same ▸ List.mem_of_getLast? ends)
    have linked : hierarchy.nexts.get? other = some node := by
      rw [stores.next_iff]
      exact ⟨parent, by rw [split, adjacent_insert]; exact .inr (.inl ⟨ends, rfl⟩)⟩
    exact Table.mem_keys_of_get? ((Table.get?_erase_eq ..).trans ((if_neg apart).trans linked))
  case preceding =>
    intro other starts _
    have apart : other ≠ node := fun same => fresh.2 (same ▸ List.mem_of_head? starts)
    have linked : hierarchy.prevs.get? other = some node := by
      rw [stores.prev_iff]
      exact ⟨parent, by rw [split, adjacent_insert]; exact .inr (.inr ⟨rfl, starts⟩)⟩
    exact Table.mem_keys_of_get? ((Table.get?_erase_eq ..).trans ((if_neg apart).trans linked))

theorem run_detach (stores : hierarchy.Stores kids) {before after : List Node}
    (split : kids parent = before ++ node :: after) :
    ∃ new, (detach node).run hierarchy = .ok (some parent) new ∧ Removed hierarchy new before node after parent := by
  have isChild : node ∈ kids parent := by
    rw [split]
    exact List.mem_append_right before List.mem_cons_self
  obtain ⟨fresh, -⟩ := stores.parts_of_split split
  rw [List.mem_append, not_or] at fresh
  have above : hierarchy.parent? node = some parent := (stores.parent_iff node parent).2 isChild
  have prev : hierarchy.prevSibling? node = before.getLast? := stores.prev_eq split
  have next : hierarchy.nextSibling? node = after.head? := stores.next_eq split
  have count : hierarchy.counts.get? parent = some (before ++ node :: after).length := by
    rw [stores.count_eq, split, if_neg (by simp)]
  have counted : (before ++ node :: after).length = (before ++ after).length + 1 := by
    simp only [List.length_append, List.length_cons]
    omega
  obtain ⟨firsts, lasts, nexts, prevs, run, firsts_eq, lasts_eq, nexts_eq, prevs_eq⟩ :=
    run_bridge (stores.gap_unlinked split)
  simp only [unlinked] at run firsts_eq lasts_eq nexts_eq prevs_eq
  simp only [detach, Change.run_get_bind, above, prev, next, Change.run_modify_bind]
  rw [Change.run_bind_of_ok run]
  simp only [Change.run_ask_bind, count, require, Outcome.pure_eq, Change.run_modify_bind, Change.run_pure]
  refine ⟨_, rfl, ?_⟩
  -- the six parts of the change, one table after another
  constructor <;> intro other
  case parents => exact Table.get?_erase_eq ..
  case firsts =>
    rw [firsts_eq]
    by_cases same : other = parent
    · rw [if_pos same, same, stores.first_eq, split]
      cases before <;> simp
    · simp [same]
  case lasts =>
    rw [lasts_eq]
    by_cases same : other = parent
    · rw [if_pos same, same, stores.last_eq, split]
      cases after <;> simp [List.getLast?_append]
    · simp [same]
  case nexts =>
    rw [nexts_eq, Table.get?_erase_eq]
    by_cases same : other = node
    · have apart : before.getLast? ≠ some node := fun ends => fresh.1 (List.mem_of_getLast? ends)
      simp [same, apart]
    · simp [same]
  case prevs =>
    rw [prevs_eq, Table.get?_erase_eq]
    by_cases same : other = node
    · have apart : after.head? ≠ some node := fun starts => fresh.2 (List.mem_of_head? starts)
      simp [same, apart]
    · simp [same]
  case counts =>
    rw [counted]
    by_cases none : before ++ after = []
    · simp only [none, List.length_nil, Nat.zero_add, if_true]
      exact Table.get?_erase_eq ..
    · have some : (before ++ after).length + 1 ≠ 1 := by
        have positive := List.length_pos_iff.2 none
        omega
      rw [if_neg some, if_neg none, Nat.add_sub_cancel]
      exact Table.get?_insert_eq ..

theorem withoutChild_of_split (stores : hierarchy.Stores kids) {before after : List Node}
    (split : kids parent = before ++ node :: after) :
    withoutChild kids node = withKids kids parent (before ++ after) := by
  obtain ⟨fresh, -, -, alone⟩ := stores.parts_of_split split
  funext above
  rw [withoutChild, withKids]
  by_cases here : above = parent
  · rw [List.mem_append, not_or] at fresh
    rw [if_pos here, here, split, List.erase_append_right _ fresh.1, List.erase_cons_head]
  · rw [if_neg here, List.erase_of_not_mem (alone above here)]

/-- Detaching always succeeds, and takes the node from the children of its parent if it has one. -/
theorem exists_detach (stores : hierarchy.Stores kids) (node : Node) :
    ∃ new, (detach node).run hierarchy = .ok (hierarchy.parent? node) new ∧ new.Stores (withoutChild kids node) := by
  cases above : hierarchy.parent? node with
  | none =>
    refine ⟨hierarchy, run_detach_of_top above, ?_⟩
    rwa [withoutChild_of_top ((stores.parent?_eq_none_iff node).1 above)]
  | some parent =>
    obtain ⟨before, after, split⟩ := List.append_of_mem ((stores.parent_iff node parent).1 above)
    obtain ⟨new, run, change⟩ := stores.run_detach split
    refine ⟨new, run, ?_⟩
    rw [stores.withoutChild_of_split split]
    exact stores.removed change split

theorem exists_forget (stores : hierarchy.Stores kids) (childless : kids node = []) :
    ∃ new, (forget node).run hierarchy = .ok () new ∧ new.Stores (withoutChild kids node) := by
  obtain ⟨new, run, kept⟩ := stores.exists_detach node
  refine ⟨new, ?_, kept⟩
  have none : hierarchy.hasChildren node = false := by
    rw [stores.hasChildren_eq, childless]
    rfl
  simp only [forget, Change.run_get_bind, none]
  exact Change.run_bind_of_ok run

end Stores

end NestedFlow.Hierarchy
