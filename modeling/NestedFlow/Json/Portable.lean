import NestedFlow.Json
import NestedFlow.Text.Surrogate

/-! Data that every format can hold.

Moments become texts, and a number that is not finite becomes null. The rest of the data stays as it is. Formats whose
texts are made of characters alone cannot hold a half of a surrogate pair.
-/

set_option autoImplicit false

namespace NestedFlow.Json

mutual

def portable : Json → Json
  | .float .nan => .null
  | .float (.infinite _) => .null
  | .moment value => .str value.text
  | .arr items => .arr (portableItems items)
  | .obj fields => .obj (portableFields fields)
  | value => value

def portableItems : List Json → List Json
  | [] => []
  | item :: rest => portable item :: portableItems rest

def portableFields : List (String × Json) → List (String × Json)
  | [] => []
  | (key, value) :: rest => (key, portable value) :: portableFields rest

end

/-- Free data that stands in a document. In its own keys halves of surrogate pairs are replaced. -/
def freeData (fields : List (String × Json)) : Json :=
  .obj ((portableFields fields).foldl (fun done (key, value) => setField (Text.withoutHalves key) value done) [])

mutual

/-- Whether all keys are made of characters alone. -/
def hasPlainKeys : Json → Bool
  | .arr items => havePlainKeys items
  | .obj fields => areFieldsPlainKeyed fields
  | _ => true

def havePlainKeys : List Json → Bool
  | [] => true
  | item :: rest => hasPlainKeys item && havePlainKeys rest

def areFieldsPlainKeyed : List (String × Json) → Bool
  | [] => true
  | (key, value) :: rest => !Text.hasHalf key && hasPlainKeys value && areFieldsPlainKeyed rest

end

mutual

/-- Whether all keys and texts are made of characters alone. -/
def isPlain : Json → Bool
  | .str text => !Text.hasHalf text
  | .arr items => arePlain items
  | .obj fields => areFieldsPlain fields
  | _ => true

def arePlain : List Json → Bool
  | [] => true
  | item :: rest => isPlain item && arePlain rest

def areFieldsPlain : List (String × Json) → Bool
  | [] => true
  | (key, value) :: rest => !Text.hasHalf key && isPlain value && areFieldsPlain rest

end

end NestedFlow.Json
