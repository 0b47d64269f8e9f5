import NestedFlow.Json
import NestedFlow.Decimal.Shortest
import NestedFlow.Text.Quoted

/-! Data as it is shown in messages: texts in quotes, fields and items in brackets. -/

set_option autoImplicit false

namespace NestedFlow.Json

mutual

def display : Json → String
  | .null => "None"
  | .bool true => "True"
  | .bool false => "False"
  | .int n => toString n
  | .float x => Decimal.display.write x
  | .str s => Text.quoted s
  | .moment value => value.display
  | .arr items => "[" ++ ", ".intercalate (displayItems items) ++ "]"
  | .obj fields => "\x7b" ++ ", ".intercalate (displayFields fields) ++ "\x7d"

def displayItems : List Json → List String
  | [] => []
  | item :: rest => display item :: displayItems rest

def displayFields : List (String × Json) → List String
  | [] => []
  | (key, value) :: rest => (Text.quoted key ++ ": " ++ display value) :: displayFields rest

end

/-- A text on its own is shown without quotes. -/
def plain : Json → String
  | .str s => s
  | value => display value

end NestedFlow.Json
