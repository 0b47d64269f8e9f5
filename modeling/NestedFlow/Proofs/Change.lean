import Mathlib.Order.Defs.Unbundled
import NestedFlow.Proofs.Outcome

/-! Running changes, and changes that settle.

A change settles under an invariant if it either succeeds in a state with the invariant, or fails and leaves the state
as it was. Which faults a change fails with is asked in a single state. Where a change leads is asked whether or not it
settles: the state after it is compared with the one before.
-/

set_option autoImplicit false

namespace NestedFlow.Change

variable {σ τ α β : Type}

/-! ### Running -/

@[simp] theorem run_pure (answer : α) (state : σ) : (pure answer : Change σ α).run state = .ok answer state := rfl

theorem run_bind (change : Change σ α) (next : α → Change σ β) (state : σ) :
    (change >>= next).run state =
      match change.run state with
      | .ok answer new => (next answer).run new
      | .error error new => .error error new := by
  change EStateM.bind change next state = _
  rw [EStateM.bind, EStateM.run]
  cases change state <;> rfl

theorem run_bind_of_ok {change : Change σ α} {next : α → Change σ β} {state new : σ} {answer : α}
    (first : change.run state = .ok answer new) : (change >>= next).run state = (next answer).run new := by
  rw [run_bind, first]

theorem run_bind_of_error {change : Change σ α} {next : α → Change σ β} {state new : σ} {error : Error}
    (first : change.run state = .error error new) : (change >>= next).run state = .error error new := by
  rw [run_bind, first]

theorem run_bind_eq_ok_iff {change : Change σ α} {next : α → Change σ β} {state new : σ} {result : β} :
    (change >>= next).run state = .ok result new ↔
      ∃ answer middle, change.run state = .ok answer middle ∧ (next answer).run middle = .ok result new := by
  rw [run_bind]
  cases change.run state <;> simp

@[simp] theorem run_get (state : σ) : (get : Change σ σ).run state = .ok state state := rfl

@[simp] theorem run_set (new state : σ) : (set new : Change σ PUnit).run state = .ok ⟨⟩ new := rfl

@[simp] theorem run_modify (change : σ → σ) (state : σ) :
    (modify change : Change σ PUnit).run state = .ok ⟨⟩ (change state) := rfl

theorem run_ask (question : σ → Outcome α) (state : σ) :
    (ask question).run state =
      match question state with
      | .ok answer => .ok answer state
      | .error error => .error error state := rfl

theorem run_ask_of_ok {question : σ → Outcome α} {state : σ} {answer : α} (asked : question state = .ok answer) :
    (ask question).run state = .ok answer state := by
  rw [run_ask, asked]

theorem run_ask_of_error {question : σ → Outcome α} {state : σ} {error : Error}
    (asked : question state = .error error) : (ask question).run state = .error error state := by
  rw [run_ask, asked]

/-! The same for the first step of a sequence, for use in simplification. -/

theorem run_ask_bind (question : σ → Outcome α) (next : α → Change σ β) (state : σ) :
    (ask question >>= next).run state =
      match question state with
      | .ok answer => (next answer).run state
      | .error error => .error error state := by
  rw [run_bind, run_ask]
  cases question state <;> rfl

theorem run_ask_bind_eq_ok_iff {question : σ → Outcome α} {next : α → Change σ β} {state new : σ} {result : β} :
    (ask question >>= next).run state = .ok result new ↔
      ∃ answer, question state = .ok answer ∧ (next answer).run state = .ok result new := by
  rw [run_ask_bind]
  cases question state <;> simp

theorem run_get_bind (next : σ → Change σ β) (state : σ) : ((get : Change σ σ) >>= next).run state = (next state).run state :=
  run_bind_of_ok (run_get state)

theorem run_modify_bind (change : σ → σ) (next : PUnit → Change σ β) (state : σ) :
    ((modify change : Change σ PUnit) >>= next).run state = (next ⟨⟩).run (change state) :=
  run_bind_of_ok (run_modify change state)

theorem run_within (part : σ → τ) (replace : σ → τ → σ) (change : Change τ α) (state : σ) :
    (within part replace change).run state =
      match change.run (part state) with
      | .ok answer new => .ok answer (replace state new)
      | .error error new => .error error (replace state new) := rfl

theorem run_within_eq_ok_iff {part : σ → τ} {replace : σ → τ → σ} {change : Change τ α} {state last : σ} {answer : α} :
    (within part replace change).run state = .ok answer last ↔
      ∃ new, change.run (part state) = .ok answer new ∧ replace state new = last := by
  rw [run_within]
  cases change.run (part state) <;> simp [and_comm]

theorem perform_eq (change : Change σ α) (state : σ) :
    change.perform state =
      match change.run state with
      | .ok answer new => (.ok answer, new)
      | .error error new => (.error error, new) := rfl

theorem after_eq_ok_iff {change : Change σ Unit} {state new : σ} :
    change.after state = .ok new ↔ change.run state = .ok () new := by
  rw [after, show change state = change.run state from rfl]
  cases change.run state <;> simp

/-- A loop that succeeds at every item goes through the states that a fold gives. -/
theorem run_forM {step : σ → α → σ} {body : α → Change σ Unit} {items : List α} {state : σ}
    (each : ∀ before item after, items = before ++ item :: after →
      (body item).run (before.foldl step state) = .ok () (step (before.foldl step state) item)) :
    (items.forM body).run state = .ok () (items.foldl step state) := by
  induction items generalizing state with
  | nil => rfl
  | cons item rest ih =>
    have first : (body item).run state = .ok () (step state item) := each [] item rest rfl
    have further : (rest.forM body).run (step state item) = .ok () (rest.foldl step (step state item)) := by
      apply ih
      intro before next after split
      have atNext := each (item :: before) next after (by rw [split, List.cons_append])
      rwa [List.foldl_cons] at atNext
    change ((body item >>= fun _ => rest.forM body).run state) = _
    rw [run_bind_of_ok first, further, List.foldl_cons]

/-- Every step of a loop that succeeds does, in the state that the steps before it have left. -/
theorem exists_of_run_forM {body : α → Change σ Unit} {before after : List α} {item : α} {state new : σ}
    (run : ((before ++ item :: after).forM body).run state = .ok () new) :
    ∃ reached next, (before.forM body).run state = .ok () reached ∧ (body item).run reached = .ok () next := by
  induction before generalizing state with
  | nil =>
    change (body item >>= fun _ => after.forM body).run state = .ok () new at run
    obtain ⟨_, next, first, -⟩ := run_bind_eq_ok_iff.1 run
    exact ⟨state, next, rfl, first⟩
  | cons other before ih =>
    change (body other >>= fun _ => (before ++ item :: after).forM body).run state = .ok () new at run
    obtain ⟨_, middle, first, further⟩ := run_bind_eq_ok_iff.1 run
    obtain ⟨reached, next, earlier, here⟩ := ih further
    exact ⟨reached, next, (run_bind_of_ok first).trans earlier, here⟩

/-- A list of questions, which leave the state alone, is one question. -/
theorem run_mapM_ask (question : σ → α → Outcome β) (items : List α) (state : σ) :
    (items.mapM fun item => ask fun state => question state item).run state =
      (ask fun state => items.mapM (question state)).run state := by
  induction items with
  | nil => rfl
  | cons item rest ih =>
    rw [List.mapM_cons, run_ask]
    simp only [List.mapM_cons]
    have first := run_ask (fun state => question state item) state
    cases asked : question state item with
    | error error =>
      simp only [asked] at first
      rw [run_bind_of_error first]
      rfl
    | ok answer =>
      simp only [asked] at first
      rw [run_bind_of_ok first, run_bind, ih, run_ask]
      cases rest.mapM (question state) <;> rfl

/-! ### Settling -/

/-- Success with the invariant, or failure in the state before. -/
def Settles (invariant : σ → Prop) (change : Change σ α) (state : σ) : Prop :=
  (∃ answer new, change.run state = .ok answer new ∧ invariant new) ∨ ∃ error, change.run state = .error error state

section

variable {invariant : σ → Prop} {state : σ}

theorem settles_of_ok {change : Change σ α} {answer : α} {new : σ} (run : change.run state = .ok answer new)
    (kept : invariant new) : change.Settles invariant state := .inl ⟨answer, new, run, kept⟩

theorem settles_of_error {change : Change σ α} {error : Error} (run : change.run state = .error error state) :
    change.Settles invariant state := .inr ⟨error, run⟩

theorem settles_ask_bind {question : σ → Outcome α} {next : α → Change σ β}
    (further : ∀ answer, question state = .ok answer → (next answer).Settles invariant state) :
    (ask question >>= next).Settles invariant state := by
  cases asked : question state with
  | error error =>
    exact settles_of_error (run_bind_of_error (run_ask_of_error asked))
  | ok answer =>
    have same : (ask question >>= next).run state = (next answer).run state :=
      run_bind_of_ok (run_ask_of_ok asked)
    rw [Settles, same]
    exact further answer asked

/-- What follows a settling change has to succeed. -/
theorem Settles.bind {between : σ → Prop} {change : Change σ α} {next : α → Change σ β}
    (first : change.Settles between state)
    (further : ∀ answer new, change.run state = .ok answer new → between new →
      ∃ final last, (next answer).run new = .ok final last ∧ invariant last) :
    (change >>= next).Settles invariant state := by
  rcases first with ⟨answer, new, run, held⟩ | ⟨error, run⟩
  · obtain ⟨final, last, more, kept⟩ := further answer new run held
    exact settles_of_ok ((run_bind_of_ok run).trans more) kept
  · exact settles_of_error (run_bind_of_error run)

theorem Settles.perform {change : Change σ α} (settles : change.Settles invariant state) (held : invariant state) :
    invariant (change.perform state).2 := by
  rw [perform_eq]
  rcases settles with ⟨answer, new, run, kept⟩ | ⟨error, run⟩
  · rw [run]; exact kept
  · rw [run]; exact held

end

/-- A failure leaves the state as it was. -/
def Atomic (change : Change σ α) (state : σ) : Prop :=
  ∀ error new, change.run state = .error error new → new = state

theorem Settles.atomic {invariant : σ → Prop} {change : Change σ α} {state : σ}
    (settles : change.Settles invariant state) : change.Atomic state := by
  rintro error new failed
  rcases settles with ⟨answer, final, run, -⟩ | ⟨reason, run⟩
  · rw [run] at failed
    cases failed
  · rw [run] at failed
    cases failed
    rfl

/-! ### Failing -/

section

variable {allowed : Error → Prop} {state : σ}

/-- Every failure in a state is an allowed one. -/
def FailsOnly (allowed : Error → Prop) (change : Change σ α) (state : σ) : Prop :=
  ∀ error new, change.run state = .error error new → allowed error

theorem failsOnly_of_ok {change : Change σ α} {answer : α} {new : σ} (run : change.run state = .ok answer new) :
    change.FailsOnly allowed state := by
  intro error other failed
  rw [run] at failed
  cases failed

theorem FailsOnly.bind {change : Change σ α} {next : α → Change σ β} (first : change.FailsOnly allowed state)
    (further : ∀ answer new, (next answer).FailsOnly allowed new) : (change >>= next).FailsOnly allowed state := by
  intro error new failed
  rw [run_bind] at failed
  cases run : change.run state with
  | error reason last =>
    rw [run] at failed
    cases failed
    exact first error new run
  | ok answer last =>
    rw [run] at failed
    exact further answer last error new failed

theorem failsOnly_ask_bind {question : σ → Outcome α} {next : α → Change σ β}
    (asked : (question state).FailsOnly allowed) (further : ∀ answer, (next answer).FailsOnly allowed state) :
    (ask question >>= next).FailsOnly allowed state := by
  intro error new failed
  rw [run_ask_bind] at failed
  cases found : question state with
  | error reason =>
    rw [found] at failed
    cases failed
    exact asked error found
  | ok answer =>
    rw [found] at failed
    exact further answer error new failed

theorem failsOnly_within {part : σ → τ} {replace : σ → τ → σ} {change : Change τ α}
    (fails : change.FailsOnly allowed (part state)) : (within part replace change).FailsOnly allowed state := by
  intro error new failed
  rw [run_within] at failed
  split at failed
  · cases failed
  · rename_i reason last run
    cases failed
    exact fails error last run

theorem FailsOnly.after {change : Change σ Unit} (fails : change.FailsOnly allowed state) :
    (change.after state).FailsOnly allowed := by
  intro error failed
  rw [Change.after] at failed
  split at failed
  · cases failed
  · rename_i reason new run
    cases failed
    exact fails error new run

end

/-! ### Where a change leads -/

section

variable {relation : σ → σ → Prop} {state : σ}

/-- The state after the change, whether it succeeds or fails, is related to the state before. -/
def Leads (relation : σ → σ → Prop) (change : Change σ α) (state : σ) : Prop :=
  relation state (change.perform state).2

theorem leads_modify {change : σ → σ} (related : relation state (change state)) :
    Leads relation (modify change : Change σ PUnit) state := related

theorem leads_set {new : σ} (related : relation state new) : Leads relation (set new : Change σ PUnit) state := related

theorem leads_get_bind {next : σ → Change σ α} (further : (next state).Leads relation state) :
    ((get : Change σ σ) >>= next).Leads relation state := by
  rwa [Leads, perform_eq, run_get_bind, ← perform_eq]

section

variable [IsPreorder σ relation]

theorem leads_pure (answer : α) : Leads relation (pure answer : Change σ α) state := refl_of relation state

theorem leads_throw (error : Error) : Leads relation (throw error : Change σ α) state := refl_of relation state

theorem leads_ask (question : σ → Outcome α) : (ask question).Leads relation state := by
  rw [Leads, perform_eq, run_ask]
  cases question state <;> exact refl_of relation state

theorem Leads.bind {change : Change σ α} {next : α → Change σ β} (first : change.Leads relation state)
    (further : ∀ answer new, change.run state = .ok answer new → (next answer).Leads relation new) :
    (change >>= next).Leads relation state := by
  rw [Leads, perform_eq] at first
  rw [Leads, perform_eq, run_bind]
  cases run : change.run state with
  | error error new =>
    rw [run] at first
    exact first
  | ok answer new =>
    rw [run] at first
    have second := further answer new run
    rw [Leads, perform_eq] at second
    exact trans_of relation first second

theorem leads_ask_bind {question : σ → Outcome α} {next : α → Change σ β}
    (further : ∀ answer, question state = .ok answer → (next answer).Leads relation state) :
    (ask question >>= next).Leads relation state := by
  apply (leads_ask question).bind
  intro answer new run
  rw [run_ask] at run
  cases asked : question state with
  | error error =>
    rw [asked] at run
    cases run
  | ok given =>
    rw [asked] at run
    cases run
    exact further answer asked

theorem leads_mapM {body : α → Change σ β} {items : List α} (each : ∀ item state, (body item).Leads relation state) :
    (items.mapM body).Leads relation state := by
  induction items generalizing state with
  | nil => exact leads_pure []
  | cons item rest ih =>
    rw [List.mapM_cons]
    exact (each item state).bind fun _ _ _ => ih.bind fun _ _ _ => leads_pure _

theorem leads_forM {body : α → Change σ Unit} {items : List α} (each : ∀ item state, (body item).Leads relation state) :
    (items.forM body).Leads relation state := by
  induction items generalizing state with
  | nil => exact leads_pure ()
  | cons item rest ih => exact (each item state).bind fun _ _ _ => ih

end

end

end NestedFlow.Change
