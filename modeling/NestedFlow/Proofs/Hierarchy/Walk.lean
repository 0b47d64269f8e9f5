import Mathlib.Data.List.Nodup
import NestedFlow.Hierarchy
import NestedFlow.Proofs.Table

/-! Walks along links, and neighbours in a list. -/

set_option autoImplicit false

namespace NestedFlow

/-! ### Neighbours -/

/-- The second value follows the first one immediately somewhere in a list. -/
def Adjacent {α : Type} : List α → α → α → Prop
  | [], _, _ => False
  | item :: rest, first, second => (item = first ∧ rest.head? = some second) ∨ Adjacent rest first second

section

variable {α : Type} {items before after : List α} {item first second : α}

theorem Adjacent.mem (adjacent : Adjacent items first second) : first ∈ items ∧ second ∈ items := by
  induction items with
  | nil => cases adjacent
  | cons item rest ih =>
    rcases adjacent with ⟨same, next⟩ | later
    · exact ⟨by simp [same], List.mem_cons_of_mem _ (List.mem_of_head? next)⟩
    · exact ⟨List.mem_cons_of_mem _ (ih later).1, List.mem_cons_of_mem _ (ih later).2⟩

theorem adjacent_append : Adjacent (before ++ after) first second ↔
    Adjacent before first second ∨ Adjacent after first second ∨
      (before.getLast? = some first ∧ after.head? = some second) := by
  induction before with
  | nil => simp [Adjacent]
  | cons item rest ih =>
    rw [List.cons_append, Adjacent, Adjacent, ih]
    cases rest with
    | nil => simp [Adjacent, or_comm]
    | cons next rest =>
      rw [List.getLast?_cons_cons]
      simp only [List.cons_append, List.head?_cons]
      tauto

/-- Putting one more item between two parts of a list separates the neighbours there. -/
theorem adjacent_insert : Adjacent (before ++ item :: after) first second ↔
    (Adjacent before first second ∨ Adjacent after first second) ∨
      (before.getLast? = some first ∧ item = second) ∨ (item = first ∧ after.head? = some second) := by
  rw [adjacent_append, Adjacent, List.head?_cons, Option.some.injEq]
  tauto

/-- Among distinct items, one is followed only by the first of those after it, -/
theorem adjacent_right_iff (nodup : (before ++ item :: after).Nodup) :
    Adjacent (before ++ item :: after) item second ↔ after.head? = some second := by
  rw [List.nodup_middle, List.nodup_cons, List.mem_append, not_or] at nodup
  obtain ⟨⟨early, late⟩, -⟩ := nodup
  rw [adjacent_insert]
  constructor
  · rintro ((held | held) | ⟨last, -⟩ | ⟨-, head⟩)
    · exact absurd held.mem.1 early
    · exact absurd held.mem.1 late
    · exact absurd (List.mem_of_getLast? last) early
    · exact head
  · exact fun head => .inr (.inr ⟨rfl, head⟩)

/-- and follows only the last of those before it. -/
theorem adjacent_left_iff (nodup : (before ++ item :: after).Nodup) :
    Adjacent (before ++ item :: after) first item ↔ before.getLast? = some first := by
  rw [List.nodup_middle, List.nodup_cons, List.mem_append, not_or] at nodup
  obtain ⟨⟨early, late⟩, -⟩ := nodup
  rw [adjacent_insert]
  constructor
  · rintro ((held | held) | ⟨last, -⟩ | ⟨-, head⟩)
    · exact absurd held.mem.2 early
    · exact absurd held.mem.2 late
    · exact last
    · exact absurd (List.mem_of_head? head) late
  · exact fun last => .inr (.inl ⟨last, rfl⟩)

theorem not_adjacent_getLast? (nodup : items.Nodup) (last : items.getLast? = some first) (second : α) :
    ¬ Adjacent items first second := by
  obtain ⟨before, rfl⟩ : ∃ before, items = before ++ [first] := List.getLast?_eq_some_iff.1 last
  rw [adjacent_append]
  have fresh : first ∉ before := fun mem => (List.nodup_append.1 nodup).2.2 first mem first List.mem_cons_self rfl
  rintro (earlier | (⟨-, next⟩ | nothing) | ⟨before, -⟩)
  · exact fresh earlier.mem.1
  · cases next
  · cases nothing
  · exact fresh (List.mem_of_getLast? before)

theorem not_adjacent_head? (nodup : items.Nodup) (head : items.head? = some second) (first : α) :
    ¬ Adjacent items first second := by
  cases items with
  | nil => cases head
  | cons item rest =>
    rw [List.head?_cons, Option.some.injEq] at head
    subst head
    rw [List.nodup_cons] at nodup
    rintro (⟨-, next⟩ | later)
    · exact nodup.1 (List.mem_of_head? next)
    · exact nodup.1 later.mem.2

end

namespace Hierarchy

/-! ### Walks -/

/-- The nodes along some links, from a given one until there is no further link. -/
inductive Walk (links : Table Node Node) : Option Node → List Node → Prop where
  | done : Walk links none []
  | step {node : Node} {rest : List Node} (further : Walk links (links.get? node) rest) :
      Walk links (some node) (node :: rest)

namespace Walk

variable {links : Table Node Node} {start : Option Node} {visited : List Node}

theorem chain_eq (walk : Walk links start visited) {steps : Nat} (enough : visited.length ≤ steps) :
    chain links steps start = visited := by
  induction walk generalizing steps with
  | done => cases steps <;> rfl
  | @step node rest further ih =>
    cases steps with
    | zero => simp at enough
    | succ steps =>
      rw [chain, ih (by simpa using enough)]

/-- Every node of a walk but the last one has a link. -/
theorem dropLast_subset (walk : Walk links start visited) : ∀ node ∈ visited.dropLast, node ∈ links.keys := by
  induction walk with
  | done => simp
  | @step node rest further ih =>
    cases further' : rest with
    | nil => simp
    | cons next others =>
      subst further'
      have linked : links.get? node = some next := by
        generalize links.get? node = target at further
        cases further
        rfl
      rw [List.dropLast_cons_cons]
      intro other mem
      rcases List.mem_cons.1 mem with same | later
      · rw [same]
        exact Table.mem_keys_of_get? linked
      · exact ih other later

theorem length_le (walk : Walk links start visited) (nodup : visited.Nodup) : visited.length ≤ links.size + 1 := by
  have distinct := nodup.sublist (List.dropLast_sublist visited)
  have bound := distinct.length_le_of_subset walk.dropLast_subset
  rw [List.length_dropLast, Table.length_keys] at bound
  omega

theorem chain_size_eq (walk : Walk links start visited) (nodup : visited.Nodup) :
    chain links (links.size + 1) start = visited := walk.chain_eq (walk.length_le nodup)

end Walk

end Hierarchy

end NestedFlow
