import NestedFlow.Json
import NestedFlow.Text.Digit

/-! How large data is: how deeply it is nested, and whether its whole numbers have few enough digits to be written. -/

set_option autoImplicit false

namespace NestedFlow.Json

mutual

/-- The number of values that lie in each other, the innermost one included. -/
def depth : Json → Nat
  | .arr items => depthOfItems items + 1
  | .obj fields => depthOfFields fields + 1
  | _ => 1

def depthOfItems : List Json → Nat
  | [] => 0
  | item :: rest => max (depth item) (depthOfItems rest)

def depthOfFields : List (String × Json) → Nat
  | [] => 0
  | (_, value) :: rest => max (depth value) (depthOfFields rest)

end

mutual

def isWritable : Json → Bool
  | .int n => Text.isWritable n
  | .arr items => areWritable items
  | .obj fields => areFieldsWritable fields
  | _ => true

def areWritable : List Json → Bool
  | [] => true
  | item :: rest => isWritable item && areWritable rest

def areFieldsWritable : List (String × Json) → Bool
  | [] => true
  | (_, value) :: rest => isWritable value && areFieldsWritable rest

end

end NestedFlow.Json
