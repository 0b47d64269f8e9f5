import NestedFlow.Fault

/-! Changes of a state that may fail.

A change that fails keeps what it did before the failure, so that whether a failed change leaves its state alone is
a question about the change and not a consequence of its type.
-/

set_option autoImplicit false

namespace NestedFlow

abbrev Change (σ α : Type) := EStateM Error σ α

namespace Change

variable {σ τ α : Type}

/-- Ask the state without changing it. -/
def ask (question : σ → Outcome α) : Change σ α := fun state =>
  match question state with
  | .ok answer => .ok answer state
  | .error error => .error error state

/-- A change of a part of the state. -/
def within (part : σ → τ) (replace : σ → τ → σ) (change : Change τ α) : Change σ α := fun state =>
  match change (part state) with
  | .ok answer new => .ok answer (replace state new)
  | .error error new => .error error (replace state new)

/-- The result of a change and the state after it. -/
def perform (change : Change σ α) (state : σ) : Outcome α × σ :=
  match change state with
  | .ok answer new => (.ok answer, new)
  | .error error new => (.error error, new)

/-- The state after a change that succeeds. -/
def after (change : Change σ Unit) (state : σ) : Outcome σ :=
  match change state with
  | .ok _ new => .ok new
  | .error error _ => .error error

end Change

/-- What is there, or a breakdown. -/
def require {α : Type} (found : Option α) (cause : Breakdown) : Outcome α :=
  match found with
  | some value => pure value
  | none => fail (.breakdown cause)

end NestedFlow
