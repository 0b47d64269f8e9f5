/-! Finite sets kept as strictly ascending lists.

A set has one list, so equality of sets is equality of lists: `ext_mem` says that two sets with the
same members are equal. `mem_insert`, `mem_union` and `mem_diff` describe the operations by membership.
-/

set_option autoImplicit false

namespace NestedFlow

structure SortedList (α : Type) [LT α] where
  toList : List α
  sorted : toList.Pairwise (· < ·)

namespace SortedList

variable {α : Type} [LT α]

@[ext] theorem ext {left right : SortedList α} (same : left.toList = right.toList) : left = right := by
  cases left; cases right; cases same; rfl

instance : Membership α (SortedList α) := ⟨fun set x => x ∈ set.toList⟩

@[simp] theorem mem_toList {set : SortedList α} {x : α} : x ∈ set.toList ↔ x ∈ set := Iff.rfl

def empty : SortedList α := ⟨[], .nil⟩

instance : EmptyCollection (SortedList α) := ⟨empty⟩

instance : Inhabited (SortedList α) := ⟨empty⟩

def singleton (x : α) : SortedList α := ⟨[x], List.pairwise_singleton _ x⟩

def isEmpty (set : SortedList α) : Bool := set.toList.isEmpty

def size (set : SortedList α) : Nat := set.toList.length

section DecidableMembership

variable [DecidableEq α]

instance : DecidableEq (SortedList α) := fun left right =>
  decidable_of_iff (left.toList = right.toList) ⟨ext, fun same => same ▸ rfl⟩

instance (x : α) (set : SortedList α) : Decidable (x ∈ set) :=
  inferInstanceAs (Decidable (x ∈ set.toList))

/-- The members of the first set that are not in the second. -/
def diff (left right : SortedList α) : SortedList α :=
  ⟨left.toList.filter fun x => decide (x ∉ right), left.sorted.filter _⟩

def subset (left right : SortedList α) : Bool := left.toList.all fun x => decide (x ∈ right)

@[simp] theorem mem_diff {left right : SortedList α} {z : α} :
    z ∈ left.diff right ↔ z ∈ left ∧ z ∉ right := by
  change z ∈ left.toList.filter _ ↔ _
  simp

theorem subset_iff {left right : SortedList α} :
    left.subset right = true ↔ ∀ z, z ∈ left → z ∈ right := by
  simp [subset]

end DecidableMembership

section Extensionality

variable [LE α] [Std.IsLinearOrder α] [Std.LawfulOrderLT α]

theorem sorted_eq_of_mem_iff : ∀ {xs ys : List α}, xs.Pairwise (· < ·) → ys.Pairwise (· < ·) →
    (∀ z, z ∈ xs ↔ z ∈ ys) → xs = ys
  | [], [], _, _, _ => rfl
  | [], y :: _, _, _, same => absurd ((same y).2 List.mem_cons_self) List.not_mem_nil
  | x :: _, [], _, _, same => absurd ((same x).1 List.mem_cons_self) List.not_mem_nil
  | x :: xs, y :: ys, hx, hy, same => by
    rw [List.pairwise_cons] at hx hy
    have head : x = y := by
      rcases List.mem_cons.1 ((same x).1 List.mem_cons_self) with h | h
      · exact h
      · rcases List.mem_cons.1 ((same y).2 List.mem_cons_self) with k | k
        · exact k.symm
        · exact absurd (Std.lt_trans (hx.1 y k) (hy.1 x h)) Std.lt_irrefl
    subst head
    congr 1
    refine sorted_eq_of_mem_iff hx.2 hy.2 fun z => ⟨fun mem => ?_, fun mem => ?_⟩
    · rcases List.mem_cons.1 ((same z).1 (List.mem_cons_of_mem _ mem)) with h | h
      · exact absurd (h ▸ hx.1 z mem) Std.lt_irrefl
      · exact h
    · rcases List.mem_cons.1 ((same z).2 (List.mem_cons_of_mem _ mem)) with h | h
      · exact absurd (h ▸ hy.1 z mem) Std.lt_irrefl
      · exact h

theorem ext_mem {left right : SortedList α} (same : ∀ z, z ∈ left ↔ z ∈ right) : left = right :=
  ext (sorted_eq_of_mem_iff left.sorted right.sorted same)

end Extensionality

variable [DecidableLT α] [DecidableEq α]

/-- Put a value at its place in an ascending list, unless it is there already. -/
def place (x : α) : List α → List α
  | [] => [x]
  | y :: ys => if x < y then x :: y :: ys else if x = y then y :: ys else y :: place x ys

theorem mem_place {x z : α} {ys : List α} : z ∈ place x ys ↔ z = x ∨ z ∈ ys := by
  induction ys with
  | nil => simp [place]
  | cons y ys ih =>
    simp only [place]
    split
    · simp
    · split
      · rename_i same; subst same; simp
      · simp only [List.mem_cons, ih]; grind

variable [LE α] [Std.IsLinearOrder α] [Std.LawfulOrderLT α]

theorem sorted_place {x : α} {ys : List α} (sorted : ys.Pairwise (· < ·)) :
    (place x ys).Pairwise (· < ·) := by
  induction ys with
  | nil => simp [place]
  | cons y ys ih =>
    rw [List.pairwise_cons] at sorted
    simp only [place]
    split
    · rename_i before
      rw [List.pairwise_cons, List.pairwise_cons]
      refine ⟨fun z mem => ?_, sorted⟩
      rcases List.mem_cons.1 mem with same | later
      · exact same ▸ before
      · exact Std.lt_trans before (sorted.1 z later)
    · split
      · exact List.pairwise_cons.2 sorted
      · rename_i after apart
        rw [List.pairwise_cons]
        refine ⟨fun z mem => ?_, ih sorted.2⟩
        rcases mem_place.1 mem with same | later
        · subst same
          rcases Std.lt_trichotomy z y with h | h | h
          · exact absurd h after
          · exact absurd h apart
          · exact h
        · exact sorted.1 z later

def insert (set : SortedList α) (x : α) : SortedList α :=
  ⟨place x set.toList, sorted_place set.sorted⟩

def ofList (xs : List α) : SortedList α := xs.foldl insert empty

def union (left right : SortedList α) : SortedList α := right.toList.foldl insert left

@[simp] theorem mem_insert {set : SortedList α} {x z : α} : z ∈ set.insert x ↔ z = x ∨ z ∈ set :=
  mem_place

theorem mem_foldl_insert {xs : List α} {set : SortedList α} {z : α} :
    z ∈ xs.foldl insert set ↔ z ∈ xs ∨ z ∈ set := by
  induction xs generalizing set with
  | nil => simp
  | cons x xs ih => simp only [List.foldl_cons, ih, mem_insert, List.mem_cons]; grind

@[simp] theorem mem_ofList {xs : List α} {z : α} : z ∈ ofList xs ↔ z ∈ xs := by
  have none : z ∉ (empty : SortedList α) := fun mem => List.not_mem_nil mem
  simp [ofList, mem_foldl_insert, none]

@[simp] theorem mem_union {left right : SortedList α} {z : α} :
    z ∈ left.union right ↔ z ∈ left ∨ z ∈ right := by
  simp [union, mem_foldl_insert, or_comm]

end SortedList

end NestedFlow
