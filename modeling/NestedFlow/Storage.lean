import NestedFlow.Config
import NestedFlow.Program.Codec
import NestedFlow.Text.Encoding

/-! Programs in files.

The end of a file's name decides the format; other names take the format of the settings. Tables have no null, so
fields without a value are dropped at every depth. Saving makes no directories.
-/

set_option autoImplicit false

namespace NestedFlow

/-- What a file holds: text, or a table whose text is not kept. -/
inductive FileContent where
  | text (text : String)
  | table (fields : List (String × Json))

namespace Storage

/-- The parts of a name between slashes. Empty ones and those that stay where they are do not count. -/
def parts (name : String) : List String := (name.splitOn "/").filter fun part => part != "" && part != "."

/-- The name in its simplest form. -/
def normalized (name : String) : String :=
  (if name.startsWith "/" then "/" else "") ++ "/".intercalate (parts name)

/-- The last part of a name from its last point on. A point at either end does not count. -/
def suffix (name : String) : String :=
  let reversed := ((parts name).getLastD "").toList.reverse
  let ending := reversed.takeWhile fun c => c != '.'
  let before := reversed.drop (ending.length + 1)
  if ending.isEmpty || before.isEmpty then "" else "." ++ String.ofList ending.reverse

def formatOfName? (name : String) : Option FileFormat :=
  match (suffix name).toLower with
  | ".json" => some .json
  | ".toml" => some .toml
  | _ => none

/-- The most bytes of a part of a name. -/
def maxPartSize : Nat := 255

/-- Whether there can be a file under the parts of a name. The directories on the way are there, or all of them lie
outwards. -/
def place (areThere : Bool) : List String → Outcome Unit
  | [] => fail (.breakdown .directory)
  | part :: rest =>
    if part = ".." then place areThere rest
    else if maxPartSize < (Text.toPlain part).utf8ByteSize then fail (.breakdown .name)
    else if rest.isEmpty then pure ()
    else if areThere then place areThere rest
    else fail (.breakdown .absentFile)

/-- The halves of surrogate pairs that stand for single bytes in a name. -/
def isByteHalf (point : Nat) : Bool := 0xDC80 ≤ point && point < 0xDD00

/-- Whether there can be a file of a name, where directories are there or not. -/
def findPlace (areThere : Bool) (name : String) : Outcome Unit :=
  if (Text.points name.toList).any fun point => Text.isHalf point && !isByteHalf point then
    fail (.breakdown .encoding)
  else if name.contains (Char.ofNat 0) then fail (.breakdown .value)
  else place areThere (parts name)

mutual

/-- The data without the fields that are null. -/
def withoutNulls : Json → Json
  | .arr items => .arr (itemsWithoutNulls items)
  | .obj fields => .obj (fieldsWithoutNulls fields)
  | value => value

def itemsWithoutNulls : List Json → List Json
  | [] => []
  | item :: rest => withoutNulls item :: itemsWithoutNulls rest

def fieldsWithoutNulls : List (String × Json) → List (String × Json)
  | [] => []
  | (_, .null) :: rest => fieldsWithoutNulls rest
  | (key, value) :: rest => (key, withoutNulls value) :: fieldsWithoutNulls rest

end

mutual

def hasNull : Json → Bool
  | .null => true
  | .arr items => anyNull items
  | .obj fields => anyFieldNull fields
  | _ => false

def anyNull : List Json → Bool
  | [] => false
  | item :: rest => hasNull item || anyNull rest

def anyFieldNull : List (String × Json) → Bool
  | [] => false
  | (_, value) :: rest => hasNull value || anyFieldNull rest

end

/-- The format of a file: the one that is asked for, or the one of its name, or the one of the settings. -/
def resolve (name : String) (asked : Option String) (config : Config) : Outcome FileFormat :=
  match asked with
  | some text =>
    match FileFormat.ofText? text with
    | some format => pure format
    | none => fail (.config (.unknownFormat text))
  | none => pure ((formatOfName? name).getD config.format)

/-- The content of a program's file of a name. Text is complete before the file is there, and a table is made after
that. Lists cannot have a null in a table. -/
def content (program : Program) (name : String) : FileFormat → Outcome FileContent
  | .json => do
    let text ← program.toText (some 2)
    findPlace false name
    pure (.text text)
  | .toml => do
    findPlace false name
    let data ← program.toJson
    match withoutNulls data with
    | .obj fields =>
      if hasNull (.obj fields) then fail (.breakdown .type)
      else if Json.areFieldsPlain fields then pure (.table fields)
      else fail (.breakdown .encoding)
    | _ => fail (.breakdown .type)

/-- The program in a file, whose directory is there. -/
def load (registry : Registry) (name : String) (content : FileContent) : Outcome Program := do
  findPlace true name
  match formatOfName? name, content with
  | some .toml, .table fields => Program.ofJson registry (.obj fields)
  | some .toml, .text text => do
    let fields ← (Toml.ofText text).orFail (.document .notTable)
    Program.ofJson registry (.obj fields)
  | _, .text text => Program.ofReading registry (Text.charsOfBytes text >>= Json.ofChars)
  | _, .table _ => fail (.document .notText)

/-- Whether the program in a file has the external form of a given one. -/
def isKept (registry : Registry) (program : Program) (name : String) (content : FileContent) : Outcome Bool := do
  let loaded ← load registry name content
  let found ← loaded.toJson
  let expected ← program.toJson
  pure (found.alike expected)

end Storage

end NestedFlow
