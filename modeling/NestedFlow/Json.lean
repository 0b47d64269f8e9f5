import NestedFlow.Decimal.Binary64
import NestedFlow.Moment

/-! JSON values.

Integers are unbounded and kept apart from floating-point numbers. Moments are no values of JSON text; tables of other
formats have them. `Json.alike` is equality of data: the order of the fields of an object does not matter, and a truth
value equals the number it counts as.
-/

set_option autoImplicit false

namespace NestedFlow

inductive Json where
  | null
  | bool (value : Bool)
  | int (value : Int)
  | float (value : Binary64)
  | str (value : String)
  | moment (value : Moment)
  | arr (items : List Json)
  | obj (fields : List (String × Json))
  deriving Inhabited

namespace Json

def field? (name : String) : List (String × Json) → Option Json
  | [] => none
  | (key, value) :: rest => if key = name then some value else field? name rest

def get? (name : String) : Json → Option Json
  | .obj fields => field? name fields
  | _ => none

def setField (name : String) (value : Json) : List (String × Json) → List (String × Json)
  | [] => [(name, value)]
  | (key, old) :: rest =>
    if key = name then (key, value) :: rest else (key, old) :: setField name value rest

/-- The name of the kind of a value. -/
def kindName : Json → String
  | .null => "NoneType"
  | .bool _ => "bool"
  | .int _ => "int"
  | .float _ => "float"
  | .str _ => "str"
  | .moment value => value.kindName
  | .arr _ => "list"
  | .obj _ => "dict"

/-- The value as a number: truth values count as one and zero. -/
def number? : Json → Option (Int ⊕ Binary64)
  | .bool b => some (.inl (if b then 1 else 0))
  | .int n => some (.inl n)
  | .float x => some (.inr x)
  | _ => none

def numbersAlike : Int ⊕ Binary64 → Int ⊕ Binary64 → Bool
  | .inl n, .inl m => n == m
  | .inl n, .inr x => x.toInt? == some n
  | .inr x, .inl n => x.toInt? == some n
  | .inr x, .inr y => x.numEq y

mutual

/-- Equality of data. -/
def alike : Json → Json → Bool
  | .null, .null => true
  | .str a, .str b => a == b
  | .moment a, .moment b => a == b
  | .arr xs, .arr ys => itemsAlike xs ys
  | .obj xs, .obj ys => xs.length == ys.length && fieldsWithin xs ys
  | .bool a, other => (number? other).any (numbersAlike (.inl (if a then 1 else 0)))
  | .int n, other => (number? other).any (numbersAlike (.inl n))
  | .float x, other => (number? other).any (numbersAlike (.inr x))
  | _, _ => false

def itemsAlike : List Json → List Json → Bool
  | [], [] => true
  | x :: xs, y :: ys => alike x y && itemsAlike xs ys
  | _, _ => false

/-- Every field of the first object has an equal value in the second. -/
def fieldsWithin : List (String × Json) → List (String × Json) → Bool
  | [], _ => true
  | (key, value) :: rest, others =>
    (match field? key others with
      | some other => alike value other
      | none => false) && fieldsWithin rest others

end

end Json

end NestedFlow
