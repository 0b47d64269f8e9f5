import NestedFlow.Json
import NestedFlow.Decimal.Shortest
import NestedFlow.Text.Quoted

/-! JSON text.

Without a layout the text has no blanks; with one, every item and field has a line of its own, indented by
its depth, and empty arrays and objects stay closed. Characters above the controls are written as they are.
-/

set_option autoImplicit false

namespace NestedFlow.Json

def escapedChar (c : Char) : List Char :=
  if c = '"' then ['\\', '"']
  else if c = '\\' then ['\\', '\\']
  else if c = '\n' then ['\\', 'n']
  else if c = '\r' then ['\\', 'r']
  else if c = '\t' then ['\\', 't']
  else if c.toNat = 8 then ['\\', 'b']
  else if c.toNat = 12 then ['\\', 'f']
  else if c.toNat < 32 then ['\\', 'u'] ++ Text.hexDigits 4 c.toNat
  else [c]

def writeString (text : String) : String :=
  String.ofList ('"' :: text.toList.flatMap escapedChar ++ ['"'])

/-- The break before an item at some depth: nothing, or a new line and its indentation. -/
def lineBreak (indent : Option Nat) (depth : Nat) : String :=
  match indent with
  | none => ""
  | some width => "\n" ++ String.ofList (List.replicate (width * depth) ' ')

/-- Items between brackets, broken at the given depth. -/
def enclose (indent : Option Nat) (depth : Nat) (opening closing : String) : List String → String
  | [] => opening ++ closing
  | items =>
    opening ++ lineBreak indent (depth + 1) ++
      ("," ++ lineBreak indent (depth + 1)).intercalate items ++ lineBreak indent depth ++ closing

mutual

def write (style : Decimal.Style) (indent : Option Nat) (depth : Nat) : Json → String
  | .null => "null"
  | .bool true => "true"
  | .bool false => "false"
  | .int n => toString n
  | .float x => style.write x
  | .str s => writeString s
  | .moment value => writeString value.text
  | .arr items => enclose indent depth "[" "]" (writeItems style indent (depth + 1) items)
  | .obj fields => enclose indent depth "\x7b" "\x7d" (writeFields style indent (depth + 1) fields)

def writeItems (style : Decimal.Style) (indent : Option Nat) (depth : Nat) : List Json → List String
  | [] => []
  | item :: rest => write style indent depth item :: writeItems style indent depth rest

def writeFields (style : Decimal.Style) (indent : Option Nat) (depth : Nat) :
    List (String × Json) → List String
  | [] => []
  | (key, value) :: rest =>
    (writeString key ++ (if indent.isSome then ": " else ":") ++ write style indent depth value) ::
      writeFields style indent depth rest

end

/-- The text of a document. -/
def toText (indent : Option Nat) (value : Json) : String := value.write Decimal.document indent 0

end NestedFlow.Json
