/-! Linearity bounds.

A copyable value may be duplicated and dropped, a linear one is consumed exactly once. The linear bound is the
larger one: it admits values of every type.
-/

set_option autoImplicit false

namespace NestedFlow

inductive Bound where
  | copyable
  | linear
  deriving DecidableEq, Inhabited

namespace Bound

/-- Whether a type of the second bound may be used where the first is required. -/
def contains : Bound → Bound → Bool
  | .linear, _ => true
  | .copyable, other => other == .copyable

def max : Bound → Bound → Bound
  | .copyable, other => other
  | .linear, _ => .linear

/-- The least bound that contains all of the given ones. -/
def join : List Bound → Bound
  | [] => .copyable
  | bound :: rest => bound.max (join rest)

theorem join_eq_linear_iff (bounds : List Bound) : join bounds = .linear ↔ .linear ∈ bounds := by
  induction bounds with
  | nil => simp [join]
  | cons bound rest ih => cases bound <;> simp [join, max, ih]

def text : Bound → String
  | .copyable => "C"
  | .linear => "A"

def ofText? : String → Option Bound
  | "C" => some .copyable
  | "A" => some .linear
  | _ => none

end Bound

end NestedFlow
