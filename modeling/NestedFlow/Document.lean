import NestedFlow.Json
import NestedFlow.Param
import NestedFlow.Port

/-! Documents: the external form of types, operations, programs and extensions.

A document refers to the definitions of extensions by name, and to nodes by their positions. Sets of extensions are
lists of texts. Nothing in a document is resolved.
-/

set_option autoImplicit false

namespace NestedFlow

mutual

inductive TyDoc where
  | custom (extension id : String) (args : List ArgDoc) (bound : Bound)
  | sum (variants : List (List TyDoc))
  | tuple (row : List TyDoc)
  | function (input output : List TyDoc) (reqs : List String)
  | var (index : Int) (bound : Bound)

inductive ArgDoc where
  | type (ty : TyDoc)
  | nat (value : Int)
  | string (value : String)
  | extensions (entries : List String)
  | sequence (elems : List ArgDoc)
  | var (index : Int) (param : Param)

end

instance : Inhabited TyDoc := ⟨.tuple []⟩

instance : Inhabited ArgDoc := ⟨.sequence []⟩

structure SignatureDoc where
  input : List TyDoc
  output : List TyDoc
  reqs : List String

def SignatureDoc.toTy (signature : SignatureDoc) : TyDoc :=
  .function signature.input signature.output signature.reqs

structure SchemeDoc where
  params : List Param
  body : SignatureDoc

inductive ValueDoc where
  | sum (tag : Int) (values : List ValueDoc)
  | tuple (values : List ValueDoc)
  | extension (typ : TyDoc) (payload : Json)

instance : Inhabited ValueDoc := ⟨.tuple []⟩

inductive OpDoc where
  | moduleRoot
  | funcDefn (name : String) (signature : SchemeDoc)
  | funcDecl (name : String) (signature : SchemeDoc)
  | const (value : ValueDoc) (typ : TyDoc)
  | input (types : List TyDoc)
  | output (types : List TyDoc)
  | dfg (inputs outputs : List TyDoc) (delta : Option (List String))
  | conditional (sumRows : List (List TyDoc)) (otherInputs outputs : List TyDoc) (delta : Option (List String))
  | branch (inputs outputs : List TyDoc) (delta : Option (List String))
  | tailLoop (justInputs justOutputs rest : List TyDoc) (delta : Option (List String))
  | cfg (inputs outputs : List TyDoc) (delta : Option (List String))
  | block (inputs : List TyDoc) (sumRows : List (List TyDoc)) (otherOutputs : List TyDoc)
      (delta : Option (List String))
  | exit (outputs : List TyDoc)
  | call (function : SchemeDoc) (typeArgs : List ArgDoc) (instantiation : SignatureDoc)
  | callIndirect (signature : SignatureDoc)
  | loadConstant (datatype : TyDoc)
  | loadFunction (function : SchemeDoc) (typeArgs : List ArgDoc) (signature : SignatureDoc)
  | tag (tag : Int) (variants : List (List TyDoc))
  | lift (types : List TyDoc) (newExtension : String)
  | makeTuple (types : List TyDoc)
  | unpackTuple (types : List TyDoc)
  | noop (ty : TyDoc)
  | extension (extension name : String) (args : List ArgDoc)

/-- A node: the position of its parent, if it has one, its operation and its metadata. -/
structure NodeDoc where
  parent : Option Int
  op : OpDoc
  metadata : Option (List (String × Json))

/-- An edge between two pairs of a node position and a port offset. -/
structure EdgeDoc where
  source : Int × Int
  target : Int × Int
  kind : EdgeKind

/-- A program. The first node is the root. -/
structure ProgramDoc where
  nodes : List NodeDoc
  edges : List EdgeDoc

structure TypeDefDoc where
  name : String
  params : List Param
  description : String
  bound : Option Bound
  boundFrom : Option (List Int)

/-- An operation definition; a rule that computes its signature has no external form. -/
structure OpDefDoc where
  name : String
  description : String
  misc : List (String × Json)
  signature : Option SchemeDoc

structure NamedValueDoc where
  name : String
  value : ValueDoc
  typ : TyDoc

structure ExtensionDoc where
  name : String
  version : String
  description : String
  reqs : List String
  types : List TypeDefDoc
  operations : List OpDefDoc
  values : List NamedValueDoc

/-- The most types, parameters, arguments, values and signatures that lie in each other. -/
def maxNesting : Nat := 255

/-- The version of the external form. -/
def documentVersion : String := "v1"

end NestedFlow
