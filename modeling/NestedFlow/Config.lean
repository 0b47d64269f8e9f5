import NestedFlow.Fault
import NestedFlow.SortedList
import NestedFlow.Toml.Reader

/-! Settings of the library, as they are read from the table of a project file. -/

set_option autoImplicit false

namespace NestedFlow

inductive FileFormat where
  | json
  | toml
  deriving DecidableEq, Inhabited

namespace FileFormat

def text : FileFormat → String
  | .json => "json"
  | .toml => "toml"

def ofText? : String → Option FileFormat
  | "json" => some .json
  | "toml" => some .toml
  | _ => none

end FileFormat

/-- The names of the directories from the outermost one down. -/
abbrev Directory := List String

namespace Directory

/-- The directory that a path leads to, unless it lies outside the outermost one. -/
def ofPath? (path : String) : Option Directory :=
  if path.startsWith "/" then none
  else
    (path.splitOn "/").foldlM (fun directory name =>
      if name = "" ∨ name = "." then some directory
      else if name = ".." then if directory.isEmpty then none else some directory.dropLast
      else some (directory ++ [name])) []

def path (directory : Directory) : String := if directory.isEmpty then "." else "/".intercalate directory

/-- The directory and those around it, the innermost one first. -/
def outwards (directory : Directory) : List Directory :=
  (List.range (directory.length + 1)).reverse.map fun count => directory.take count

end Directory

structure Config where
  /-- Whether requirements are inferred before validation. -/
  inference : Bool
  /-- Whether declared requirements are checked. -/
  requirements : Bool
  /-- The format of files whose name does not decide it. -/
  format : FileFormat
  /-- The directory of the project file. -/
  project : Option Directory
  deriving DecidableEq

namespace Config

def standard : Config := ⟨true, true, .json, none⟩

instance : Inhabited Config := ⟨standard⟩

def inferenceKey : String := "extension-inference"

def requirementsKey : String := "check-extensions"

def formatKey : String := "serialization-format"

def keys : List String := [inferenceKey, requirementsKey, formatKey]

def flag (table : List (String × Json)) (key : String) (default : Bool) : Outcome Bool :=
  match Json.field? key table with
  | none => pure default
  | some (.bool value) => pure value
  | some other => fail (Fault.config (.notBoolean key other)).checked

def formatOf (table : List (String × Json)) : Outcome FileFormat :=
  match Json.field? formatKey table with
  | none => pure .json
  | some (.str name) =>
    match FileFormat.ofText? name with
    | some format => pure format
    | none => fail (.config (.format (.str name)))
  | some other => fail (Fault.config (.format other)).checked

/-- Settings that a table gives; what it does not mention is standard. -/
def ofTable (table : List (String × Json)) (project : Option Directory) : Outcome Config := do
  let unknown := (table.map Prod.fst).filter fun key => key ∉ keys
  if unknown.isEmpty then
    let format ← formatOf table
    let inference ← flag table inferenceKey standard.inference
    let requirements ← flag table requirementsKey standard.requirements
    pure ⟨inference, requirements, format, project⟩
  else fail (.config (.unknownKeys (SortedList.ofList unknown).toList))

/-- The table of the library in a project file. -/
def section? (table : List (String × Json)) : Outcome (List (String × Json)) :=
  match (Json.field? "tool" table).getD (.obj []) with
  | .obj tools =>
    match (Json.field? "hugr-core" tools).getD (.obj []) with
    | .obj own => pure own
    | _ => fail (.config .notTable)
  | _ => fail (.breakdown .attribute)

/-- Settings from the text of the project file in a directory. -/
def ofText (text : String) (project : Directory) : Outcome Config := do
  let table ← (Toml.ofText text).orFail (.config .notToml)
  let own ← section? table
  ofTable own (some project)

def fileName : String := "pyproject.toml"

/-- The innermost directory around the one at a path that has a project file; there is none further out than the
outermost directory. -/
def locate? (read : Directory → Option String) (start : String) : Option Directory := do
  let directory ← Directory.ofPath? start
  directory.outwards.find? fun directory => (read (directory ++ [fileName])).isSome

/-- A directory is made where it is not there, unless a file is in its way. -/
def enter (read : Directory → Option String) (start : String) : Outcome Unit :=
  match Directory.ofPath? start with
  | none => pure ()
  | some directory =>
    if (read directory).isSome then fail (.breakdown .fileThere)
    else if directory.outwards.any fun outer => (read outer).isSome then fail (.breakdown .belowFile)
    else pure ()

/-- The settings that hold in the directory at a path. -/
def load (read : Directory → Option String) (start : String) : Outcome Config :=
  match locate? read start with
  | none => pure standard
  | some project =>
    match read (project ++ [fileName]) with
    | none => pure standard
    | some text => ofText text project

end Config

end NestedFlow
