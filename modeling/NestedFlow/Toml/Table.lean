import NestedFlow.Json

/-! Rules for nested tables.

A table is opened at most once, by its header or by dotted keys in one section; arrays and inline tables are closed for
good. `Namespace` remembers which paths are opened and which are closed.
-/

set_option autoImplicit false

namespace NestedFlow.Toml

abbrev Fields := List (String × Json)

abbrev Path := List String

/-- Change the table at a path, which is created where it is absent. A path leads to the last item of an array of
tables, if it may go through arrays at all. -/
def nest? (throughArrays : Bool) (change : Fields → Option Fields) : Path → Fields → Option Fields
  | [], fields => change fields
  | key :: path, fields =>
    match Json.field? key fields with
    | none => (nest? throughArrays change path []).map fun inner => Json.setField key (.obj inner) fields
    | some (.obj inner) => (nest? throughArrays change path inner).map fun inner => Json.setField key (.obj inner) fields
    | some (.arr items) =>
      if throughArrays then
        match items.getLast? with
        | some (.obj inner) =>
          (nest? throughArrays change path inner).map fun inner =>
            Json.setField key (.arr (items.dropLast ++ [.obj inner])) fields
        | _ => none
      else none
    | some _ => none

/-- Add a new key to a table. -/
def assign? (key : String) (value : Json) (fields : Fields) : Option Fields :=
  match Json.field? key fields with
  | some _ => none
  | none => some (fields ++ [(key, value)])

/-- Add an empty table to an array of tables. -/
def appendTable? (key : String) (fields : Fields) : Option Fields :=
  match Json.field? key fields with
  | none => some (fields ++ [(key, .arr [.obj []])])
  | some (.arr items) => some (Json.setField key (.arr (items ++ [.obj []])) fields)
  | some _ => none

def isComposite : Json → Bool
  | .arr _ | .obj _ => true
  | _ => false

structure Namespace where
  /-- The tables that were opened. -/
  opened : List Path
  /-- The tables opened by dotted keys, which count as opened from the next header on. -/
  pending : List Path
  /-- The values that admit no additions. -/
  closed : List Path

namespace Namespace

def empty : Namespace := ⟨[], [], []⟩

def isOpened (names : Namespace) (path : Path) : Bool := decide (path ∈ names.opened)

def isClosed (names : Namespace) (path : Path) : Bool := names.closed.any fun inner => inner.isPrefixOf path

def settle (names : Namespace) : Namespace := { names with opened := names.pending ++ names.opened, pending := [] }

/-- Forget what is known of a path and of everything below it. -/
def release (names : Namespace) (path : Path) : Namespace :=
  { names with
    opened := names.opened.filter fun inner => !path.isPrefixOf inner
    closed := names.closed.filter fun inner => !path.isPrefixOf inner }

end Namespace

/-- What has been read: the data, the paths in use, and the path of the current section. -/
structure Progress where
  data : Fields
  names : Namespace
  header : Path

namespace Progress

def start : Progress := ⟨[], .empty, []⟩

/-- The header of a table. -/
def openTable? (progress : Progress) (path : Path) : Option Progress :=
  let names := progress.names.settle
  if names.isOpened path || names.isClosed path then none
  else
    (nest? true some path progress.data).map fun data =>
      ⟨data, { names with opened := path :: names.opened }, path⟩

/-- The header of a further item of an array of tables. -/
def openItem? (progress : Progress) (path : Path) : Option Progress :=
  let names := progress.names.settle
  if names.isClosed path then none
  else
    match path.getLast? with
    | none => none
    | some key =>
      let names := names.release path
      (nest? true (appendTable? key) path.dropLast progress.data).map fun data =>
        ⟨data, { names with opened := path :: names.opened }, path⟩

/-- The tables that a dotted key passes through. -/
def passed (header path : Path) : List Path :=
  (List.range (path.length - 1)).map fun count => header ++ path.take (count + 1)

/-- A key with its value in the current section. -/
def assign? (progress : Progress) (path : Path) (value : Json) : Option Progress :=
  let names := progress.names
  let tables := passed progress.header path
  let container := progress.header ++ path.dropLast
  if tables.any names.isOpened || names.isClosed container then none
  else
    match path.getLast? with
    | none => none
    | some key =>
      let closed := if isComposite value then (progress.header ++ path) :: names.closed else names.closed
      (nest? true (Toml.assign? key value) container progress.data).map fun data =>
        ⟨data, { names with pending := tables ++ names.pending, closed := closed }, progress.header⟩

end Progress

/-- An inline table under construction, with the keys whose values are closed. -/
def assignInline? (fields : Fields) (closed : List Path) (path : Path) (value : Json) : Option Fields :=
  if closed.any fun inner => inner.isPrefixOf path then none
  else
    match path.getLast? with
    | none => none
    | some key => nest? false (assign? key value) path.dropLast fields

end NestedFlow.Toml
