import NestedFlow.Proofs.Hierarchy.Descendants
import NestedFlow.Proofs.Hierarchy.Steps

/-! Hierarchies refine ordered forests.

A forest is a list of children for every node. Whatever edits have built a hierarchy, its links are those of a forest,
and what an edit does to the links is one operation on one of the lists.
-/

set_option autoImplicit false

namespace NestedFlow.Hierarchy

open Relation

/-- An ordered forest, as the list of children of every node. -/
structure IsForest (kids : Node → List Node) : Prop where
  distinct : ∀ parent, (kids parent).Nodup
  parent_unique : ∀ node first second, node ∈ kids first → node ∈ kids second → first = second
  /-- Every way up comes to an end. -/
  grounded : WellFounded (Holds kids)
  /-- Every way down comes to an end. -/
  founded_below : WellFounded fun child parent => Holds kids parent child

/-- The answers about neighbours in a hierarchy are those that a forest gives. -/
structure Reads (hierarchy : Hierarchy) (kids : Node → List Node) : Prop where
  children : ∀ node, hierarchy.children node = kids node
  parent : ∀ node parent, hierarchy.parent? node = some parent ↔ node ∈ kids parent
  firstChild : ∀ node, hierarchy.firstChild? node = (kids node).head?
  lastChild : ∀ node, hierarchy.lastChild? node = (kids node).getLast?
  nextSibling : ∀ node next, hierarchy.nextSibling? node = some next ↔ ∃ parent, [node, next] <:+: kids parent
  prevSibling : ∀ node prev, hierarchy.prevSibling? node = some prev ↔ ∃ parent, [prev, node] <:+: kids parent
  numChildren : ∀ node, hierarchy.numChildren node = (kids node).length

/-! ### Edits -/

/-- Where a node is attached: at an end of the children of a parent, or next to a sibling. -/
inductive Place where
  | last (parent : Node)
  | first (parent : Node)
  | before (sibling : Node)
  | after (sibling : Node)

/-- A change of a hierarchy from outside. -/
inductive Edit where
  | attach (node : Node) (place : Place)
  | detach (node : Node)
  | forget (node : Node)

namespace Place

/-- The place is among the children of this parent. -/
def Under (place : Place) (kids : Node → List Node) (parent : Node) : Prop :=
  match place with
  | .last other | .first other => parent = other
  | .before sibling | .after sibling => sibling ∈ kids parent

/-- The children of a parent with one more node in this place, if the place is among them. -/
def put (place : Place) (node parent : Node) (children : List Node) : List Node :=
  match place with
  | .last other => if parent = other then children ++ [node] else children
  | .first other => if parent = other then node :: children else children
  | .before sibling => children.flatMap fun child => if child = sibling then [node, child] else [child]
  | .after sibling => children.flatMap fun child => if child = sibling then [child, node] else [child]

end Place

namespace Edit

/-- The node that an edit moves. -/
def node : Edit → Node
  | .attach node _ | .detach node | .forget node => node

def run (edit : Edit) : Change Hierarchy Unit :=
  match edit with
  | .attach node (.last parent) => pushChild node parent
  | .attach node (.first parent) => pushFrontChild node parent
  | .attach node (.before sibling) => insertBefore node sibling
  | .attach node (.after sibling) => insertAfter node sibling
  | .detach node => do let _ ← Hierarchy.detach node
  | .forget node => Hierarchy.forget node

/-- The hierarchy after an edit, whether it succeeds or fails. -/
def apply (edit : Edit) (hierarchy : Hierarchy) : Hierarchy := (edit.run.perform hierarchy).2

/-- The reasons to refuse an edit of a forest. -/
def Refused (edit : Edit) (kids : Node → List Node) : Prop :=
  match edit with
  | .attach node place =>
    (∃ other, node ∈ kids other) ∨ (∀ parent, ¬ place.Under kids parent) ∨
      ∃ parent, place.Under kids parent ∧ (node = parent ∨ Above kids node parent)
  | .detach _ => False
  | .forget node => kids node ≠ []

/-- The edit changes the children of this parent. -/
def Changes (edit : Edit) (kids : Node → List Node) (parent : Node) : Prop :=
  match edit with
  | .attach _ place => place.Under kids parent
  | .detach node | .forget node => node ∈ kids parent

/-- The forest after an edit that is not refused. -/
def effect (edit : Edit) (kids : Node → List Node) : Node → List Node :=
  match edit with
  | .attach node place => fun parent => place.put node parent (kids parent)
  | .detach node | .forget node => fun parent => (kids parent).erase node

end Edit

/-- A hierarchy answers as a forest does, and does to its links what an edit does to the forest. -/
structure Refines (hierarchy : Hierarchy) (kids : Node → List Node) : Prop where
  forest : IsForest kids
  reads : hierarchy.Reads kids
  refuses : ∀ edit : Edit, edit.Refused kids → ∃ error, edit.run.run hierarchy = .error error hierarchy
  performs : ∀ edit : Edit, ¬ edit.Refused kids → ∃ new, edit.run.run hierarchy = .ok () new ∧
    new.Reads (edit.effect kids) ∧ IsForest (edit.effect kids) ∧
    -- one list of children changes at most, and every tree that this list is no part of stays
    (∀ first second, edit.Changes kids first → edit.Changes kids second → first = second) ∧
    (∀ parent, ¬ edit.Changes kids parent → edit.effect kids parent = kids parent) ∧
    (∀ root, (∀ parent, edit.Changes kids parent → root ≠ parent ∧ ¬ Above kids root parent) →
      new.descendants root = hierarchy.descendants root) ∧
    new.descendants edit.node = hierarchy.descendants edit.node

/-! ### Answers -/

theorem adjacent_iff_infix {α : Type} {items : List α} {first second : α} :
    Adjacent items first second ↔ [first, second] <:+: items := by
  induction items with
  | nil => simp [Adjacent]
  | cons item rest ih =>
    rw [Adjacent, ih, List.infix_cons_iff]
    apply or_congr_left
    cases rest with
    | nil => simp
    | cons next rest => simp [List.cons_prefix_cons, eq_comm]

namespace Stores

variable {hierarchy new : Hierarchy} {kids others : Node → List Node}

theorem forest (stores : hierarchy.Stores kids) : IsForest kids where
  distinct := stores.distinct
  parent_unique _ _ _ := stores.parent_unique
  grounded := stores.grounded
  founded_below := stores.founded_below

theorem reads (stores : hierarchy.Stores kids) : hierarchy.Reads kids where
  children := stores.children_eq
  parent := stores.parent_iff
  firstChild := stores.first_eq
  lastChild := stores.last_eq
  nextSibling node next := by
    simp only [← adjacent_iff_infix]
    exact stores.next_iff node next
  prevSibling node prev := by
    simp only [← adjacent_iff_infix]
    exact stores.prev_iff node prev
  numChildren := stores.numChildren_eq

/-- A tree stays as it was if the children of its nodes do. -/
theorem descendants_congr (stores : hierarchy.Stores kids) (later : new.Stores others) {root : Node}
    (same : ∀ node, node = root ∨ Above kids root node → others node = kids node) :
    new.descendants root = hierarchy.descendants root := by
  -- from the leaves up: a tree is its root followed by the trees of the children
  induction root using stores.founded_below.induction with
  | _ root ih =>
    rw [later.descendants_eq, stores.descendants_eq, same root (.inl rfl)]
    congr 1
    apply List.flatMap_congr
    intro child isChild
    apply ih child isChild
    rintro node (rfl | below)
    · exact same node (.inr (.single isChild))
    · exact same node (.inr (.head isChild below))

/-! ### Attaching -/

theorem under_unique (stores : hierarchy.Stores kids) {place : Place} {first second : Node}
    (underFirst : place.Under kids first) (underSecond : place.Under kids second) : first = second := by
  cases place with
  | last parent => exact underFirst.trans underSecond.symm
  | first parent => exact underFirst.trans underSecond.symm
  | before sibling => exact stores.parent_unique underFirst underSecond
  | after sibling => exact stores.parent_unique underFirst underSecond

end Stores

section

variable {sibling : Node} {before after : List Node}

theorem flatMap_of_not_mem {each : Node → List Node} {children : List Node} (absent : sibling ∉ children) :
    (children.flatMap fun child => if child = sibling then each child else [child]) = children := by
  have alone : ∀ child ∈ children, (if child = sibling then each child else [child]) = [child] := by
    intro child member
    exact if_neg fun same : child = sibling => absent (same ▸ member)
  rw [List.flatMap_congr alone, List.flatMap_singleton']

theorem flatMap_of_split {each : Node → List Node} (distinct : (before ++ sibling :: after).Nodup) :
    ((before ++ sibling :: after).flatMap fun child => if child = sibling then each child else [child]) =
      before ++ each sibling ++ after := by
  obtain ⟨early, late⟩ := not_or.1 (List.mem_append.not.1 (List.nodup_cons.1 (List.nodup_middle.1 distinct)).1)
  rw [List.flatMap_append, List.flatMap_cons, flatMap_of_not_mem early, flatMap_of_not_mem late, if_pos rfl,
    List.append_assoc]

end

theorem Place.put_of_not_under {place : Place} {kids : Node → List Node} {node parent : Node}
    (elsewhere : ¬ place.Under kids parent) : place.put node parent (kids parent) = kids parent := by
  cases place with
  | last other => exact if_neg elsewhere
  | first other => exact if_neg elsewhere
  | before sibling => exact flatMap_of_not_mem elsewhere
  | after sibling => exact flatMap_of_not_mem elsewhere

namespace Stores

variable {hierarchy : Hierarchy} {kids : Node → List Node} {node parent : Node} {place : Place}

/-- A node that may be attached comes between two parts of the children, and the links there are changed. -/
theorem run_attach (stores : hierarchy.Stores kids) (under : place.Under kids parent)
    (attachable : Attachable kids node parent) :
    ∃ new before after, (Edit.attach node place).run.run hierarchy = .ok () new ∧ kids parent = before ++ after ∧
      place.put node parent (kids parent) = before ++ node :: after ∧
      Inserted hierarchy new before node after parent := by
  cases place with
  | last other =>
    obtain rfl : parent = other := under
    obtain ⟨new, run, change⟩ := stores.run_pushChild attachable
    exact ⟨new, kids parent, [], run, (List.append_nil _).symm, if_pos rfl, change⟩
  | first other =>
    obtain rfl : parent = other := under
    have first : hierarchy.firstChild? parent = (kids parent).head? := stores.first_eq parent
    have put : Place.put (.first parent) node parent (kids parent) = node :: kids parent := if_pos rfl
    -- in front of the first child, if there is one
    rw [Edit.run, pushFrontChild, Change.run_get_bind, put, first]
    cases children : kids parent with
    | nil =>
      obtain ⟨new, run, change⟩ := stores.run_pushChild attachable
      rw [children] at change
      exact ⟨new, [], [], run, rfl, rfl, change⟩
    | cons child rest =>
      obtain ⟨new, run, change⟩ := @run_insertBefore _ _ _ _ stores child [] rest children attachable
      exact ⟨new, [], child :: rest, run, rfl, rfl, change⟩
  | before sibling =>
    obtain ⟨before, after, split⟩ := List.append_of_mem under
    obtain ⟨new, run, change⟩ := stores.run_insertBefore split attachable
    refine ⟨new, before, sibling :: after, run, split, ?_, change⟩
    rw [Place.put, split, flatMap_of_split (split ▸ stores.distinct parent), List.append_assoc]
    rfl
  | after sibling =>
    obtain ⟨before, after, split⟩ := List.append_of_mem under
    have next : hierarchy.nextSibling? sibling = after.head? := stores.next_eq split
    have above : hierarchy.parent? sibling = some parent := (stores.parent_iff sibling parent).2 under
    have put : Place.put (.after sibling) node parent (kids parent) = (before ++ [sibling]) ++ node :: after := by
      rw [Place.put, split, flatMap_of_split (split ▸ stores.distinct parent)]
      simp
    -- in front of the next sibling, or at the end if the sibling is the last one
    rw [Edit.run, insertAfter, Change.run_get_bind, put, next]
    cases after with
    | nil =>
      obtain ⟨new, run, change⟩ := stores.run_pushChild attachable
      rw [split] at change
      simp only [List.head?_nil, Change.run_get_bind, above]
      exact ⟨new, before ++ [sibling], [], run, by simp [split], rfl, change⟩
    | cons child rest =>
      have further : kids parent = (before ++ [sibling]) ++ child :: rest := by simp [split]
      obtain ⟨new, run, change⟩ := stores.run_insertBefore further attachable
      exact ⟨new, before ++ [sibling], child :: rest, run, further, rfl, change⟩

theorem run_attach_of_not (stores : hierarchy.Stores kids)
    (refused : ∀ parent, place.Under kids parent → ¬ Attachable kids node parent) :
    ∃ error, (Edit.attach node place).run.run hierarchy = .error error hierarchy := by
  cases place with
  | last parent => exact stores.run_pushChild_of_not (refused parent rfl)
  | first parent =>
    have first : hierarchy.firstChild? parent = (kids parent).head? := stores.first_eq parent
    rw [Edit.run, pushFrontChild, Change.run_get_bind, first]
    cases children : kids parent with
    | nil => exact stores.run_pushChild_of_not (refused parent rfl)
    | cons child rest =>
      apply stores.run_insertBefore_of_not
      intro other isChild
      have here : child ∈ kids parent := by
        rw [children]
        exact List.mem_cons_self
      rw [stores.parent_unique isChild here]
      exact refused parent rfl
  | before sibling => exact stores.run_insertBefore_of_not refused
  | after sibling =>
    rw [Edit.run, insertAfter, Change.run_get_bind]
    cases next : hierarchy.nextSibling? sibling with
    | some child =>
      -- the next sibling has the same parent
      obtain ⟨above, adjacent⟩ := (stores.next_iff sibling child).1 next
      apply stores.run_insertBefore_of_not
      intro other isChild
      rw [stores.parent_unique isChild adjacent.mem.2]
      exact refused above adjacent.mem.1
    | none =>
      simp only [Change.run_get_bind]
      cases above : hierarchy.parent? sibling with
      | none => exact ⟨_, rfl⟩
      | some parent => exact stores.run_pushChild_of_not (refused parent ((stores.parent_iff _ _).1 above))

theorem effect_attach (stores : hierarchy.Stores kids) (under : place.Under kids parent) :
    (Edit.attach node place).effect kids = withKids kids parent (place.put node parent (kids parent)) := by
  funext other
  rw [Edit.effect, withKids]
  split
  · rename_i same
    rw [same]
  · rename_i apart
    exact Place.put_of_not_under fun there => apart (stores.under_unique there under)

/-! ### One edit -/

theorem run_edit (stores : hierarchy.Stores kids) {edit : Edit} (allowed : ¬ edit.Refused kids) :
    ∃ new, edit.run.run hierarchy = .ok () new ∧ new.Stores (edit.effect kids) := by
  cases edit with
  | attach node place =>
    rw [Edit.Refused, not_or, not_or] at allowed
    obtain ⟨unattached, exists_under, outside⟩ := allowed
    obtain ⟨parent, under⟩ := not_forall_not.1 exists_under
    have free : ∀ other, node ∉ kids other := fun other held => unattached ⟨other, held⟩
    have apart : node ≠ parent := fun same => outside ⟨parent, under, .inl same⟩
    have notAbove : ¬ Above kids node parent := fun above => outside ⟨parent, under, .inr above⟩
    obtain ⟨new, before, after, run, split, put, change⟩ := stores.run_attach under ⟨free, apart, notAbove⟩
    refine ⟨new, run, ?_⟩
    rw [stores.effect_attach under, put]
    exact stores.inserted change split free apart notAbove
  | detach node =>
    obtain ⟨new, run, kept⟩ := stores.exists_detach node
    exact ⟨new, Change.run_bind_of_ok run, kept⟩
  | forget node => exact stores.exists_forget (not_not.1 allowed)

theorem run_edit_of_refused (stores : hierarchy.Stores kids) {edit : Edit} (refused : edit.Refused kids) :
    ∃ error, edit.run.run hierarchy = .error error hierarchy := by
  cases edit with
  | attach node place =>
    apply stores.run_attach_of_not
    rintro parent under ⟨free, apart, outside⟩
    rcases refused with ⟨other, held⟩ | nowhere | ⟨other, there, cycle⟩
    · exact free other held
    · exact nowhere parent under
    · rw [stores.under_unique there under] at cycle
      exact cycle.elim apart outside
  | detach node => exact refused.elim
  | forget node =>
    have present : hierarchy.hasChildren node = true := by
      rw [stores.hasChildren_eq, Bool.not_eq_true', List.isEmpty_eq_false_iff]
      exact refused
    refine ⟨.onNode (.shape (.forgetParent node)) node, ?_⟩
    simp only [Edit.run, forget, Change.run_get_bind, present]
    rfl

theorem changes_unique (stores : hierarchy.Stores kids) {edit : Edit} {first second : Node}
    (changesFirst : edit.Changes kids first) (changesSecond : edit.Changes kids second) : first = second := by
  cases edit with
  | attach node place => exact stores.under_unique changesFirst changesSecond
  | detach node => exact stores.parent_unique changesFirst changesSecond
  | forget node => exact stores.parent_unique changesFirst changesSecond

/-- An edit moves a node to a parent outside its tree, or away from one. -/
theorem outside_of_changes (stores : hierarchy.Stores kids) {edit : Edit} (allowed : ¬ edit.Refused kids)
    (changes : edit.Changes kids parent) : edit.node ≠ parent ∧ ¬ Above kids edit.node parent := by
  have child : ∀ {node}, node ∈ kids parent → node ≠ parent ∧ ¬ Above kids node parent := by
    intro node isChild
    constructor
    · rintro rfl
      exact stores.not_above_self node (.single isChild)
    · exact fun path => stores.not_above_self parent (.head isChild path)
  cases edit with
  | attach node place =>
    rw [Edit.Refused, not_or, not_or] at allowed
    exact not_or.1 fun cycle => allowed.2.2 ⟨parent, changes, cycle⟩
  | detach node => exact child changes
  | forget node => exact child changes

end Stores

theorem Edit.effect_of_not_changes {edit : Edit} {kids : Node → List Node} {parent : Node}
    (elsewhere : ¬ edit.Changes kids parent) : edit.effect kids parent = kids parent := by
  cases edit with
  | attach node place => exact Place.put_of_not_under elsewhere
  | detach node => exact List.erase_of_not_mem elsewhere
  | forget node => exact List.erase_of_not_mem elsewhere

theorem Stores.refines {hierarchy : Hierarchy} {kids : Node → List Node} (stores : hierarchy.Stores kids) :
    hierarchy.Refines kids where
  forest := stores.forest
  reads := stores.reads
  refuses _ := stores.run_edit_of_refused
  performs edit allowed := by
    obtain ⟨new, run, later⟩ := stores.run_edit allowed
    have apart : ∀ root, (∀ parent, edit.Changes kids parent → root ≠ parent ∧ ¬ Above kids root parent) →
        new.descendants root = hierarchy.descendants root := by
      intro root outside
      -- no node of the tree is the one whose children change
      apply stores.descendants_congr later
      intro node inside
      apply Edit.effect_of_not_changes
      intro changes
      obtain ⟨differs, notAbove⟩ := outside node changes
      exact inside.elim (fun same => differs same.symm) notAbove
    exact ⟨new, run, later.reads, later.forest, fun _ _ => stores.changes_unique,
      fun _ => Edit.effect_of_not_changes, apart, apart edit.node fun _ => stores.outside_of_changes allowed⟩

/-! ### Any number of edits -/

theorem Stores.edited {hierarchy : Hierarchy} {kids : Node → List Node} (stores : hierarchy.Stores kids)
    (edit : Edit) : ∃ others, (edit.apply hierarchy).Stores others := by
  rw [Edit.apply, Change.perform_eq]
  by_cases refused : edit.Refused kids
  · obtain ⟨error, run⟩ := stores.run_edit_of_refused refused
    rw [run]
    exact ⟨kids, stores⟩
  · obtain ⟨new, run, later⟩ := stores.run_edit refused
    rw [run]
    exact ⟨edit.effect kids, later⟩

theorem exists_stores_of_edits (edits : List Edit) :
    ∃ kids, (edits.foldl (fun hierarchy edit => edit.apply hierarchy) empty).Stores kids := by
  have further : ∀ hierarchy kids, Stores hierarchy kids →
      ∃ others, (edits.foldl (fun hierarchy edit => edit.apply hierarchy) hierarchy).Stores others := by
    induction edits with
    | nil => exact fun _ kids stores => ⟨kids, stores⟩
    | cons edit rest ih =>
      intro hierarchy kids stores
      obtain ⟨others, later⟩ := stores.edited edit
      exact ih (edit.apply hierarchy) others later
  exact further empty _ stores_empty

/-- Whatever edits build a hierarchy from nothing, failing ones included, it refines an ordered forest. -/
theorem refines_forest (edits : List Edit) :
    ∃ kids, (edits.foldl (fun hierarchy edit => edit.apply hierarchy) empty).Refines kids := by
  obtain ⟨kids, stores⟩ := exists_stores_of_edits edits
  exact ⟨kids, stores.refines⟩

end NestedFlow.Hierarchy
