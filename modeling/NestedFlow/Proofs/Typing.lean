import NestedFlow.Proofs.Outcome
import NestedFlow.Typing

/-! The rules that give types to constants.

A check of a constant against a type passes when the rules give the constant that type. What holds of typed constants
is proved along the rules.
-/

set_option autoImplicit false

namespace NestedFlow

open Outcome

mutual

/-- A constant has a type. Data that is not a constant has none. -/
inductive Value.Inhabits : Value → Ty → Prop where
  | sum {tag : Int} {values : List Value} {variants : List Row} {row : Row} (positive : ¬ tag < 0)
      (found : variants[tag.toNat]? = some row) (elements : Value.AllInhabit values row) :
      Value.Inhabits (.sum tag values) (.sum variants)
  | tuple {values : List Value} {row : Row} (elements : Value.AllInhabit values row) :
      Value.Inhabits (.tuple values) (.tuple row)
  | extension {typ : Ty} {payload : Json} : Value.Inhabits (.extension typ payload) typ

/-- The constants of a list have the types of a row, each at its place. -/
inductive Value.AllInhabit : List Value → Row → Prop where
  | nil : Value.AllInhabit [] []
  | cons {value : Value} {values : List Value} {ty : Ty} {row : Row} (first : Value.Inhabits value ty)
      (rest : Value.AllInhabit values row) : Value.AllInhabit (value :: values) (ty :: row)

end

namespace Value

mutual

theorem Inhabits.of_check : ∀ {value : Value} {ty : Ty}, value.check ty = .ok () → value.Inhabits ty
  | .sum tag values, ty, checked => by
    cases ty with
    | sum variants =>
      rw [check] at checked
      split at checked
      case isTrue => cases checked
      case isFalse positive =>
        split at checked
        case h_1 => cases checked
        case h_2 row found =>
          split at checked
          case isTrue count => exact .sum positive found (AllInhabit.of_checkEach count checked)
          case isFalse => cases checked
    | _ => cases checked
  | .tuple values, ty, checked => by
    cases ty with
    | tuple row =>
      rw [check] at checked
      split at checked
      case isTrue count => exact .tuple (AllInhabit.of_checkEach count checked)
      case isFalse => cases checked
    | _ => cases checked
  | .extension typ payload, ty, checked => by
    rw [check] at checked
    split at checked
    case isTrue same => exact same ▸ .extension
    case isFalse => cases checked
  | .raw data, ty, checked => nomatch checked

theorem AllInhabit.of_checkEach : ∀ {values : List Value} {row : Row}, row.length = values.length →
    checkEach values row = .ok () → AllInhabit values row
  | [], [], _, _ => .nil
  | [], _ :: _, count, _ => nomatch count
  | _ :: _, [], count, _ => nomatch count
  | value :: values, ty :: row, count, checked => by
    rw [checkEach, andThen_eq_ok_iff] at checked
    exact .cons (Inhabits.of_check checked.1) (AllInhabit.of_checkEach (Nat.succ.inj count) checked.2)

end

theorem AllInhabit.length_eq : ∀ {values : List Value} {row : Row}, AllInhabit values row →
    row.length = values.length
  | _, _, .nil => rfl
  | _, _, .cons _ rest => congrArg Nat.succ rest.length_eq

mutual

theorem Inhabits.check_eq : ∀ {value : Value} {ty : Ty}, value.Inhabits ty → value.check ty = .ok ()
  | _, _, .sum positive found elements => by
    rw [check, if_neg positive]
    simp only [found]
    rw [if_pos elements.length_eq]
    exact elements.checkEach_eq
  | _, _, .tuple elements => by
    rw [check, if_pos elements.length_eq]
    exact elements.checkEach_eq
  | _, _, .extension => by
    rw [check, if_pos rfl]
    rfl

theorem AllInhabit.checkEach_eq : ∀ {values : List Value} {row : Row}, AllInhabit values row →
    checkEach values row = .ok ()
  | _, _, .nil => rfl
  | _, _, .cons first rest => by
    rw [checkEach, andThen_eq_ok_iff]
    exact ⟨first.check_eq, rest.checkEach_eq⟩

end

/-- The check passes exactly for the types that the rules give. -/
theorem check_eq_ok_iff {value : Value} {ty : Ty} : value.check ty = .ok () ↔ value.Inhabits ty :=
  ⟨Inhabits.of_check, Inhabits.check_eq⟩

end Value

end NestedFlow
