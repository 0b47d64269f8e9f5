/-! Positions and slices of a list, with negative positions counted from the end. -/

set_option autoImplicit false

namespace NestedFlow

/-- A position within a length, counted from the front. -/
def positionAt? (length : Nat) (position : Int) : Option Nat :=
  let i := if position < 0 then position + (length : Int) else position
  if i < 0 ∨ (length : Int) ≤ i then none else some i.toNat

/-- The item at a position; `-1` is the last one. -/
def itemAt? {α : Type} (xs : List α) (position : Int) : Option α :=
  let i := if position < 0 then position + (xs.length : Int) else position
  if i < 0 then none else xs[i.toNat]?

theorem itemAt?_natCast {α : Type} (xs : List α) (i : Nat) : itemAt? xs (i : Int) = xs[i]? := by
  simp [itemAt?, Int.not_lt.2 (Int.natCast_nonneg i)]

/-- A selection of positions: from `start` in steps of `step` before `stop` is reached. -/
structure Slice where
  start : Option Int
  stop : Option Int
  step : Option Int

/-- A given end of a slice, counted from the front and moved into the range of the list. -/
def Slice.clamp (length lowest highest position : Int) : Int :=
  if position < 0 then max (position + length) lowest else min position highest

/-- The positions of a slice in order; nothing for a step of zero. -/
def Slice.positions? (slice : Slice) (length : Nat) : Option (List Nat) :=
  let step := slice.step.getD 1
  if step = 0 then none
  else
    let n : Int := length
    let (first, last) :=
      if 0 < step then
        ((slice.start.map (clamp n 0 n)).getD 0, (slice.stop.map (clamp n 0 n)).getD n)
      else
        ((slice.start.map (clamp n (-1) (n - 1))).getD (n - 1),
          (slice.stop.map (clamp n (-1) (n - 1))).getD (-1))
    let distance := if 0 < step then last - first else first - last
    let count := if distance ≤ 0 then 0 else ((distance - 1) / step.natAbs + 1).toNat
    some ((List.range count).map fun (k : Nat) => (first + (k : Int) * step).toNat)

def Slice.take? {α : Type} (slice : Slice) (xs : List α) : Option (List α) :=
  (slice.positions? xs.length).map fun positions => positions.filterMap fun i => xs[i]?

end NestedFlow
