import NestedFlow.Fault

/-! Which constants inhabit which types. -/

set_option autoImplicit false

namespace NestedFlow

namespace Value

mutual

/-- A constant inhabits a type: its variant exists and its elements inhabit the row, or its own type is that type. -/
def check : Value → Ty → Outcome Unit
  | .sum tag values, ty =>
    match ty with
    | .sum variants =>
      if tag < 0 then fail (.mismatch (.tagRange tag variants.length (.sum tag values) ty))
      else
        match variants[tag.toNat]? with
        | none => fail (.mismatch (.tagRange tag variants.length (.sum tag values) ty))
        | some row =>
          if row.length = values.length then checkEach values row
          else fail (.mismatch (.elementCount row (.sum tag values) values.length))
    | _ => fail (.mismatch (.notSum (.sum tag values) ty))
  | .tuple values, ty =>
    match ty with
    | .tuple row =>
      if row.length = values.length then checkEach values row
      else fail (.mismatch (.elementCount row (.tuple values) values.length))
    | _ => fail (.mismatch (.notTuple (.tuple values) ty))
  | .extension typ _, ty =>
    if typ = ty then pure () else fail (.mismatch (.extensionType typ ty))
  | .raw data, ty => fail (.mismatch (.notValue data ty))

def checkEach : List Value → List Ty → Outcome Unit
  | value :: values, ty :: types => do
    check value ty
    checkEach values types
  | _, _ => pure ()

end

end Value

end NestedFlow
