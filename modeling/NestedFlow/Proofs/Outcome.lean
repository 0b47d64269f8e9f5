import Mathlib.Data.List.Nodup
import NestedFlow.Change

/-! Outcomes taken apart: when a sequence of questions succeeds, and with what, and which faults it fails with. -/

set_option autoImplicit false

namespace NestedFlow

/-- Among distinct items, one that comes next is not among those that are done. -/
theorem not_mem_of_split {α : Type} {done rest : List α} {item : α} (distinct : (done ++ item :: rest).Nodup) :
    item ∉ done :=
  fun mem => (List.nodup_cons.1 (List.nodup_middle.1 distinct)).1 (List.mem_append_left rest mem)

namespace Outcome

variable {α β : Type}

@[simp] theorem pure_eq (value : α) : (pure value : Outcome α) = .ok value := rfl

@[simp] theorem ok_bind (value : α) (next : α → Outcome β) : ((.ok value : Outcome α) >>= next) = next value := rfl

@[simp] theorem error_bind (error : Error) (next : α → Outcome β) :
    ((.error error : Outcome α) >>= next) = .error error := rfl

theorem bind_eq_ok_iff {first : Outcome α} {next : α → Outcome β} {result : β} :
    (first >>= next) = .ok result ↔ ∃ value, first = .ok value ∧ next value = .ok result := by
  cases first <;> simp

theorem bind_eq_of_ok {first : Outcome α} {next : α → Outcome β} {value : α} (answered : first = .ok value) :
    (first >>= next) = next value := by rw [answered, ok_bind]

theorem require_eq_ok_iff {found : Option α} {cause : Breakdown} {value : α} :
    require found cause = .ok value ↔ found = some value := by
  cases found <;> simp [require, fail]

/-- Questions about some items all succeed exactly if every single one does. -/
theorem mapM_eq_ok_iff {question : α → Outcome β} {items : List α} {answers : List β} :
    items.mapM question = .ok answers ↔ items.map question = answers.map .ok := by
  induction items generalizing answers with
  | nil => cases answers <;> simp
  | cons item rest ih =>
    rw [List.mapM_cons, bind_eq_ok_iff, List.map_cons]
    constructor
    · rintro ⟨answer, first, further⟩
      obtain ⟨others, more, whole⟩ := bind_eq_ok_iff.1 further
      rw [pure_eq, Except.ok.injEq] at whole
      rw [first, ih.1 more, ← whole, List.map_cons]
    · intro same
      cases answers with
      | nil => cases same
      | cons answer others =>
        rw [List.map_cons, List.cons.injEq] at same
        refine ⟨answer, same.1, ?_⟩
        rw [ih.2 same.2]
        rfl

theorem mapM_of_forall {question : α → Outcome β} {answer : α → β} {items : List α}
    (each : ∀ item ∈ items, question item = .ok (answer item)) : items.mapM question = .ok (items.map answer) := by
  rw [mapM_eq_ok_iff, List.map_map]
  exact List.map_congr_left each

/-- If the answers to other questions follow from those to some, then all of them do. -/
theorem mapM_imp {γ : Type} {question : α → Outcome β} {other : α → Outcome γ} {derive : β → γ} {items : List α}
    {answers : List β}
    (each : ∀ item ∈ items, ∀ answer, question item = .ok answer → other item = .ok (derive answer))
    (answered : items.mapM question = .ok answers) : items.mapM other = .ok (answers.map derive) := by
  induction items generalizing answers with
  | nil =>
    cases answered
    rfl
  | cons item rest ih =>
    rw [List.mapM_cons] at answered ⊢
    obtain ⟨answer, first, answered⟩ := bind_eq_ok_iff.1 answered
    obtain ⟨others, further, same⟩ := bind_eq_ok_iff.1 answered
    cases same
    rw [each item List.mem_cons_self answer first, ok_bind,
      ih (fun next mem => each next (List.mem_cons_of_mem item mem)) further]
    rfl

theorem exists_mapM {question : α → Outcome β} {items : List α}
    (each : ∀ item ∈ items, ∃ answer, question item = .ok answer) : ∃ answers, items.mapM question = .ok answers := by
  induction items with
  | nil => exact ⟨[], rfl⟩
  | cons item rest ih =>
    obtain ⟨answer, first⟩ := each item List.mem_cons_self
    obtain ⟨others, further⟩ := ih fun other mem => each other (List.mem_cons_of_mem item mem)
    refine ⟨answer :: others, ?_⟩
    rw [List.mapM_cons, first, ok_bind, further]
    rfl

/-- Sifting succeeds if every question about an item does. -/
theorem filterM_of_forall {question : α → Outcome Bool} {answer : α → Bool} {items : List α}
    (each : ∀ item ∈ items, question item = .ok (answer item)) :
    items.filterM question = .ok (items.filter answer) := by
  -- the items that pass are collected in reverse
  have further : ∀ (items found : List α), (∀ item ∈ items, question item = .ok (answer item)) →
      items.filterAuxM question found = .ok ((items.filter answer).reverse ++ found) := by
    intro items
    induction items with
    | nil => exact fun _ _ => rfl
    | cons item rest ih =>
      intro found each
      rw [List.filterAuxM, each item List.mem_cons_self, ok_bind,
        ih _ fun other mem => each other (List.mem_cons_of_mem item mem)]
      cases kept : answer item <;> simp [kept]
  rw [List.filterM, further items [] each, ok_bind]
  simp

theorem andThen_eq_ok_iff {first second : Outcome Unit} :
    (first >>= fun _ => second) = .ok () ↔ first = .ok () ∧ second = .ok () := by
  cases first <;> simp

/-- Checks of some items all succeed exactly if every single one does. -/
theorem forM_eq_ok_iff {check : α → Outcome Unit} {items : List α} :
    (items.forM check : Outcome Unit) = .ok () ↔ ∀ item ∈ items, check item = .ok () := by
  induction items with
  | nil => simp
  | cons item rest ih =>
    change (check item >>= fun _ => rest.forM check) = .ok () ↔ _
    rw [andThen_eq_ok_iff, ih, List.forall_mem_cons]

/-- What every step of a fold keeps for the items so far holds for all items in the end. -/
theorem foldlM_traces (invariant : List α → β → Prop) {step : β → α → Outcome β} {items : List α}
    (each : ∀ done item rest before after, items = done ++ item :: rest → invariant done before →
      step before item = .ok after → invariant (done ++ [item]) after)
    {start result : β} (begins : invariant [] start) (folded : items.foldlM step start = .ok result) :
    invariant items result := by
  have further : ∀ rest done before, items = done ++ rest → invariant done before →
      rest.foldlM step before = .ok result → invariant items result := by
    intro rest
    induction rest with
    | nil =>
      intro done before all held folded
      rw [List.append_nil] at all
      cases folded
      exact all ▸ held
    | cons item rest ih =>
      intro done before all held folded
      rw [List.foldlM_cons, bind_eq_ok_iff] at folded
      obtain ⟨after, made, folded⟩ := folded
      exact ih (done ++ [item]) after (by simpa using all) (each done item rest before after all held made) folded
  exact further items [] start rfl begins folded

/-- What every step of a fold preserves holds of its result. -/
theorem foldlM_preserves (invariant : β → Prop) {step : β → α → Outcome β} {items : List α} {start result : β}
    (each : ∀ before item after, item ∈ items → invariant before → step before item = .ok after → invariant after)
    (begins : invariant start) (folded : items.foldlM step start = .ok result) : invariant result := by
  refine foldlM_traces (fun _ => invariant) (fun done item rest before after all held made => ?_) begins folded
  exact each before item after (by simp [all]) held made

/-- If every step of a fold can be made and keeps what holds of the items so far, then the fold succeeds. -/
theorem foldlM_reaches (invariant : List α → β → Prop) {step : β → α → Outcome β} {items : List α}
    (each : ∀ done item rest before, items = done ++ item :: rest → invariant done before →
      ∃ after, step before item = .ok after ∧ invariant (done ++ [item]) after)
    {start : β} (begins : invariant [] start) :
    ∃ result, items.foldlM step start = .ok result ∧ invariant items result := by
  have further : ∀ rest done before, items = done ++ rest → invariant done before →
      ∃ result, rest.foldlM step before = .ok result ∧ invariant items result := by
    intro rest
    induction rest with
    | nil =>
      intro done before all held
      rw [List.append_nil] at all
      exact ⟨before, rfl, all ▸ held⟩
    | cons item rest ih =>
      intro done before all held
      obtain ⟨after, made, kept⟩ := each done item rest before all held
      obtain ⟨result, folded, last⟩ := ih (done ++ [item]) after (by simpa using all) kept
      refine ⟨result, ?_, last⟩
      rw [List.foldlM_cons, made, ok_bind, folded]
  exact further items [] start rfl begins

/-! ### Failures -/

section

variable {allowed : Error → Prop}

/-- Every failure is an allowed one. -/
def FailsOnly (allowed : Error → Prop) (outcome : Outcome α) : Prop := ∀ error, outcome = .error error → allowed error

theorem failsOnly_ok (value : α) : FailsOnly allowed (.ok value : Outcome α) := fun _ failed => nomatch failed

theorem failsOnly_fail {fault : Fault} (held : allowed (.bare fault)) :
    FailsOnly allowed (fail fault : Outcome α) := by
  intro error failed
  cases failed
  exact held

theorem failsOnly_failAt {node : Node} {fault : Fault} (held : allowed (.onNode fault node)) :
    FailsOnly allowed (failAt node fault : Outcome α) := by
  intro error failed
  cases failed
  exact held

theorem FailsOnly.bind {first : Outcome α} {next : α → Outcome β} (begins : first.FailsOnly allowed)
    (further : ∀ value, (next value).FailsOnly allowed) : (first >>= next).FailsOnly allowed := by
  cases first with
  | error error =>
    intro found failed
    cases failed
    exact begins error rfl
  | ok value => exact further value

theorem FailsOnly.ite {condition : Prop} [Decidable condition] {first second : Outcome α}
    (ifTrue : first.FailsOnly allowed) (ifFalse : second.FailsOnly allowed) :
    (if condition then first else second).FailsOnly allowed := by
  split <;> assumption

theorem FailsOnly.imp {others : Error → Prop} {outcome : Outcome α} (fails : outcome.FailsOnly allowed)
    (each : ∀ error, allowed error → others error) : outcome.FailsOnly others :=
  fun error failed => each _ (fails error failed)

theorem failsOnly_forM {check : α → Outcome Unit} (items : List α)
    (each : ∀ item, (check item).FailsOnly allowed) : (items.forM check : Outcome Unit).FailsOnly allowed := by
  induction items with
  | nil => exact failsOnly_ok ()
  | cons item rest ih => exact (each item).bind fun _ => ih

/-- Every answer has a property, and every failure is an allowed one. -/
def Meets (good : α → Prop) (allowed : Error → Prop) (outcome : Outcome α) : Prop :=
  (∀ value, outcome = .ok value → good value) ∧ outcome.FailsOnly allowed

section

variable {good : α → Prop}

theorem meets_ok {value : α} (held : good value) : Meets good allowed (.ok value : Outcome α) := by
  refine ⟨fun other same => ?_, failsOnly_ok value⟩
  cases same
  exact held

theorem meets_fail {fault : Fault} (held : allowed (.bare fault)) : Meets good allowed (fail fault : Outcome α) :=
  ⟨fun _ answered => (nomatch answered), failsOnly_fail held⟩

theorem FailsOnly.meets {outcome : Outcome α} (fails : outcome.FailsOnly allowed) :
    outcome.Meets (fun value => outcome = .ok value) allowed := ⟨fun _ answered => answered, fails⟩

theorem Meets.imp {others : Error → Prop} {outcome : Outcome α} (meets : outcome.Meets good allowed)
    (each : ∀ error, allowed error → others error) : outcome.Meets good others := ⟨meets.1, meets.2.imp each⟩

theorem Meets.bind {fine : β → Prop} {first : Outcome α} {next : α → Outcome β} (begins : first.Meets good allowed)
    (further : ∀ value, good value → (next value).Meets fine allowed) : (first >>= next).Meets fine allowed := by
  cases first with
  | error error =>
    refine ⟨fun _ answered => (nomatch answered), fun found failed => ?_⟩
    cases failed
    exact begins.2 error rfl
  | ok value => exact further value (begins.1 value rfl)

theorem Meets.failsOnly_bind {first : Outcome α} {next : α → Outcome β} (begins : first.Meets good allowed)
    (further : ∀ value, good value → (next value).FailsOnly allowed) : (first >>= next).FailsOnly allowed :=
  (@Meets.bind _ _ _ _ (fun _ => True) _ _ begins fun value held => ⟨fun _ _ => trivial, further value held⟩).2

theorem Meets.ite {condition : Prop} [Decidable condition] {first second : Outcome α}
    (ifTrue : condition → first.Meets good allowed) (ifFalse : ¬ condition → second.Meets good allowed) :
    (if condition then first else second).Meets good allowed := by
  split
  · exact ifTrue ‹_›
  · exact ifFalse ‹_›

end

/-- A fold fails as its steps do, which are made where an invariant holds. -/
theorem meets_foldlM (invariant : β → Prop) {step : β → α → Outcome β} {items : List α}
    (each : ∀ before item, item ∈ items → invariant before → (step before item).Meets invariant allowed)
    {start : β} (begins : invariant start) : (items.foldlM step start).Meets invariant allowed := by
  induction items generalizing start with
  | nil => exact meets_ok begins
  | cons item rest ih =>
    rw [List.foldlM_cons]
    exact (each start item List.mem_cons_self begins).bind fun after held =>
      ih (fun before other mem => each before other (List.mem_cons_of_mem item mem)) held

theorem failsOnly_mapM {question : α → Outcome β} {items : List α}
    (each : ∀ item ∈ items, (question item).FailsOnly allowed) : (items.mapM question).FailsOnly allowed := by
  induction items with
  | nil => exact failsOnly_ok []
  | cons item rest ih =>
    rw [List.mapM_cons]
    exact (each item List.mem_cons_self).bind fun _ =>
      (ih fun other mem => each other (List.mem_cons_of_mem item mem)).bind fun _ => failsOnly_ok _

end

end Outcome

end NestedFlow
