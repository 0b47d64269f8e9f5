import NestedFlow.SortedList

/-! Sets of extensions that a region or a function requires.

A set has names of extensions and indices of variables, which stand for sets given by the arguments of a
polymorphic signature.
-/

set_option autoImplicit false

namespace NestedFlow

structure ExtensionSet where
  names : SortedList String
  indices : SortedList Int
  deriving DecidableEq

namespace ExtensionSet

def empty : ExtensionSet := ⟨∅, ∅⟩

instance : EmptyCollection ExtensionSet := ⟨empty⟩

instance : Inhabited ExtensionSet := ⟨empty⟩

def ofName (name : String) : ExtensionSet := ⟨.singleton name, ∅⟩

def ofVariable (index : Int) : ExtensionSet := ⟨∅, .singleton index⟩

def union (left right : ExtensionSet) : ExtensionSet :=
  ⟨left.names.union right.names, left.indices.union right.indices⟩

def unionAll (sets : List ExtensionSet) : ExtensionSet := sets.foldl union empty

def insert (set : ExtensionSet) (name : String) : ExtensionSet :=
  ⟨set.names.insert name, set.indices⟩

/-- The members of the other set that are not in this one. -/
def missingFrom (set other : ExtensionSet) : ExtensionSet :=
  ⟨other.names.diff set.names, other.indices.diff set.indices⟩

def subset (left right : ExtensionSet) : Bool :=
  left.names.subset right.names && left.indices.subset right.indices

def isEmpty (set : ExtensionSet) : Bool := set.names.isEmpty && set.indices.isEmpty

def size (set : ExtensionSet) : Nat := set.names.size + set.indices.size

def contains (set : ExtensionSet) (name : String) : Bool := decide (name ∈ set.names)

/-- Names in ascending order, then the variables as decimal numbers. -/
def toStrings (set : ExtensionSet) : List String :=
  set.names.toList ++ set.indices.toList.map fun index => toString index

def text (set : ExtensionSet) : String :=
  "[" ++ ", ".intercalate
    (set.names.toList ++ set.indices.toList.map fun index => "?" ++ toString index) ++ "]"

end ExtensionSet

end NestedFlow
