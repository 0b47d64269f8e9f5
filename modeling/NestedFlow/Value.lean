import NestedFlow.Ty
import NestedFlow.Json.Display

/-! Constant values.

A constant is a variant of a sum, a tuple, or a value of an extension given by its type and data. Data in the
place of a value is kept as it is; it has no type.
-/

set_option autoImplicit false

namespace NestedFlow

inductive Value where
  | sum (tag : Int) (values : List Value)
  | tuple (values : List Value)
  | extension (typ : Ty) (payload : Json)
  | raw (data : Json)
  deriving Inhabited

namespace Value

mutual

def text : Value → String
  | .sum tag [] => "Tag(" ++ toString tag ++ ")"
  | .sum tag values => "Tag(" ++ toString tag ++ ", " ++ ", ".intercalate (texts values) ++ ")"
  | .tuple values => "(" ++ ", ".intercalate (texts values) ++ ")"
  | .extension typ payload => typ.text ++ "(" ++ payload.display ++ ")"
  | .raw data => data.plain

def texts : List Value → List String
  | [] => []
  | value :: rest => text value :: texts rest

end

mutual

/-- Equality of values, with their data compared as data. -/
def alike : Value → Value → Bool
  | .sum tag values, .sum tag' values' => tag == tag' && allAlike values values'
  | .tuple values, .tuple values' => allAlike values values'
  | .extension typ payload, .extension typ' payload' => decide (typ = typ') && payload.alike payload'
  | .raw data, .raw data' => data.alike data'
  | _, _ => false

def allAlike : List Value → List Value → Bool
  | [], [] => true
  | value :: rest, value' :: rest' => alike value value' && allAlike rest rest'
  | _, _ => false

end

/-- A value of a sum whose variants carry nothing. -/
def unit (tag : Int) : Value := .sum tag []

end Value

end NestedFlow
