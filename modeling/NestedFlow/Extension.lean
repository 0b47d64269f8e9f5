import NestedFlow.Extension.Name
import NestedFlow.Substitution
import NestedFlow.Table
import NestedFlow.Text.Identifier
import NestedFlow.Typing

/-! Extensions and registries.

An extension defines types, operations and named values. A registry holds extensions under distinct names; whatever
needs the definitions is given a registry, and every type is checked against one.
-/

set_option autoImplicit false

namespace NestedFlow

/-- The bound of the instances of a type definition: one for all, or the join over some type arguments. -/
inductive BoundRule where
  | fixed (bound : Bound)
  | fromArgs (positions : List Int)
  deriving DecidableEq

structure TypeDef where
  extension : String
  name : String
  params : List Param
  description : String
  bound : BoundRule
  deriving DecidableEq

namespace TypeDef

def boundFrom? (definition : TypeDef) : Option (List Int) :=
  match definition.bound with
  | .fixed _ => none
  | .fromArgs positions => some positions

def boundFor (definition : TypeDef) (args : List Arg) : Outcome Bound :=
  match definition.bound with
  | .fixed bound => pure bound
  | .fromArgs positions => derivedBound args positions

def instantiate (definition : TypeDef) (args : List Arg) : Outcome Ty := do
  Arg.checkList args definition.params
  let bound ← definition.boundFor args
  Ty.instance? definition.extension definition.name args bound definition.boundFrom?

end TypeDef

/-- A rule that computes a signature from its static arguments, which have been checked before. -/
structure ComputedRule where
  staticParams : List Param
  compute : List Arg → Outcome Scheme

inductive SignatureRule where
  | absent
  | fixed (scheme : Scheme)
  | computed (rule : ComputedRule)

structure OpDef where
  extension : String
  name : String
  rule : SignatureRule
  description : String
  misc : List (String × Json)

namespace OpDef

/-- The parameters as far as they are known before there are arguments. -/
def params (definition : OpDef) : List Param :=
  match definition.rule with
  | .absent => []
  | .fixed scheme => scheme.params
  | .computed rule => rule.staticParams

def baseSignature (definition : OpDef) (args : List Arg) : Outcome Signature :=
  match definition.rule with
  | .absent => fail (.signature (.noRule definition.extension definition.name))
  | .fixed scheme => scheme.instantiate args
  | .computed rule => do
    let count := rule.staticParams.length
    if args.length < count then
      fail (.signature (.tooFewArgs count definition.extension definition.name args.length))
    else
      Arg.checkList (args.take count) rule.staticParams
      let scheme ← rule.compute (args.take count)
      scheme.instantiate (args.drop count)

/-- The signature at given arguments; the defining extension is always required. -/
def computeSignature (definition : OpDef) (args : List Arg) : Outcome Signature := do
  let signature ← definition.baseSignature args
  pure { signature with reqs := signature.reqs.insert definition.extension }

def instantiate (definition : OpDef) (args : List Arg) : Outcome Op := do
  let signature ← definition.computeSignature args
  pure (.extension definition.extension definition.name args signature)

end OpDef

/-- Equality of definitions, with data compared as data. Rules that compute are equal to no other. -/
def OpDef.alike (left right : OpDef) : Bool :=
  left.extension == right.extension && left.name == right.name && left.description == right.description &&
    (Json.obj left.misc).alike (.obj right.misc) &&
    match left.rule, right.rule with
    | .absent, .absent => true
    | .fixed scheme, .fixed other => decide (scheme = other)
    | _, _ => false

structure NamedValue where
  extension : String
  name : String
  value : Value
  typ : Ty

def NamedValue.alike (left right : NamedValue) : Bool :=
  left.extension == right.extension && left.name == right.name && left.value.alike right.value &&
    decide (left.typ = right.typ)

structure Extension where
  name : String
  version : String
  reqs : ExtensionSet
  description : String
  types : Table String TypeDef
  operations : Table String OpDef
  values : Table String NamedValue

namespace Extension

def create (name version : String) (reqs : ExtensionSet) (description : String) : Outcome Extension :=
  if isExtensionName name then pure ⟨name, version, reqs, description, ∅, ∅, ∅⟩
  else fail (.build (.extensionName name))

def checkMember {ν : Type} (extension : Extension) (name : String) (table : Table String ν) (what : String) :
    Outcome Unit :=
  if !Text.isIdentifier name then fail (.build (.memberName what name extension.name))
  else if table.contains name then fail (.build (.memberTaken what name extension.name))
  else pure ()

def addType (extension : Extension) (name : String) (params : List Param) (description : String)
    (bound : BoundRule) : Outcome Extension := do
  extension.checkMember name extension.types "type"
  pure { extension with types := extension.types.insert name ⟨extension.name, name, params, description, bound⟩ }

def addOp (extension : Extension) (name : String) (rule : SignatureRule) (description : String)
    (misc : List (String × Json)) : Outcome Extension := do
  extension.checkMember name extension.operations "operation"
  pure { extension with
    operations := extension.operations.insert name ⟨extension.name, name, rule, description, misc⟩ }

def addValue (extension : Extension) (name : String) (value : Value) (typ : Ty) : Outcome Extension := do
  extension.checkMember name extension.values "value"
  value.check typ
  pure { extension with values := extension.values.insert name ⟨extension.name, name, value, typ⟩ }

def instantiateOp (extension : Extension) (name : String) (args : List Arg) : Outcome Op :=
  match extension.operations.get? name with
  | none => fail (.operationNotFound extension.name name)
  | some definition => definition.instantiate args

def text (extension : Extension) : String :=
  "Extension(" ++ Text.quoted extension.name ++ ", version=" ++ Text.quoted extension.version ++ ")"

end Extension

structure Registry where
  extensions : Table String Extension

namespace Registry

def empty : Registry := ⟨∅⟩

instance : EmptyCollection Registry := ⟨empty⟩

instance : Inhabited Registry := ⟨empty⟩

def register (registry : Registry) (extension : Extension) : Outcome Registry :=
  if registry.extensions.contains extension.name then fail (.build (.registered extension.name))
  else pure ⟨registry.extensions.insert extension.name extension⟩

def ofList (extensions : List Extension) : Outcome Registry := extensions.foldlM register empty

def names (registry : Registry) : List String := (SortedList.ofList registry.extensions.keys).toList

/-- The extensions in the order of their names. -/
def toList (registry : Registry) : List Extension :=
  registry.names.filterMap registry.extensions.get?

def contains (registry : Registry) (name : String) : Bool := registry.extensions.contains name

def union (left right : Registry) : Outcome Registry := ofList (left.toList ++ right.toList)

def get (registry : Registry) (name : String) : Outcome Extension :=
  match registry.extensions.get? name with
  | some extension => pure extension
  | none => fail (.extensionNotFound name)

def getOp (registry : Registry) (extension name : String) : Outcome OpDef := do
  let owner ← registry.get extension
  match owner.operations.get? name with
  | some definition => pure definition
  | none => fail (.operationNotFound extension name)

def getType (registry : Registry) (extension name : String) : Outcome TypeDef := do
  let owner ← registry.get extension
  match owner.types.get? name with
  | some definition => pure definition
  | none => fail (.signature (.unknownType extension name))

def instantiateType (registry : Registry) (extension name : String) (args : List Arg) : Outcome Ty := do
  let definition ← registry.getType extension name
  definition.instantiate args

def instantiateOp (registry : Registry) (extension name : String) (args : List Arg) : Outcome Op := do
  let definition ← registry.getOp extension name
  definition.instantiate args

def text (registry : Registry) : String :=
  "ExtensionRegistry(" ++ bracketed (registry.names.map Text.quoted) ++ ")"

end Registry

mutual

/-- A type is well formed in a scope of variables: its definitions exist, its arguments fit them, its bounds agree
with the definitions, and its variables are declared as they are used. -/
def Ty.validate (registry : Registry) (scope : List Param) : Ty → Outcome Unit
  | .custom extension name args bound boundFrom => do
    let definition ← registry.getType extension name
    Arg.validateAll registry scope args
    Arg.checkList args definition.params
    let expected ← definition.boundFor args
    if expected = bound ∧ definition.boundFrom? = boundFrom then pure ()
    else fail (.signature (.boundDisagrees (.custom extension name args bound boundFrom) expected))
  | .sum variants => Row.validateAll registry scope variants
  | .tuple row => Row.validate registry scope row
  | .function input output reqs => do
    Row.validate registry scope input
    Row.validate registry scope output
    reqs.validate scope
  | .var index bound => checkVariable scope index (.type bound)

def Row.validate (registry : Registry) (scope : List Param) : List Ty → Outcome Unit
  | [] => pure ()
  | ty :: rest => do
    Ty.validate registry scope ty
    Row.validate registry scope rest

def Row.validateAll (registry : Registry) (scope : List Param) : List (List Ty) → Outcome Unit
  | [] => pure ()
  | row :: rest => do
    Row.validate registry scope row
    Row.validateAll registry scope rest

def Arg.validate (registry : Registry) (scope : List Param) : Arg → Outcome Unit
  | .type ty => Ty.validate registry scope ty
  | .nat _ => pure ()
  | .string _ => pure ()
  | .extensions set => set.validate scope
  | .sequence elems => Arg.validateAll registry scope elems
  | .var index param => checkVariable scope index param

def Arg.validateAll (registry : Registry) (scope : List Param) : List Arg → Outcome Unit
  | [] => pure ()
  | arg :: rest => do
    Arg.validate registry scope arg
    Arg.validateAll registry scope rest

end

def Signature.validate (registry : Registry) (scope : List Param) (signature : Signature) : Outcome Unit :=
  signature.toTy.validate registry scope

/-- The body is validated with the parameters in scope. -/
def Scheme.validate (registry : Registry) (scheme : Scheme) : Outcome Unit :=
  scheme.body.validate registry scheme.params

def OpDef.validate (registry : Registry) (definition : OpDef) : Outcome Unit :=
  match definition.rule with
  | .fixed scheme => scheme.validate registry
  | _ => pure ()

/-- The required extensions are registered and the fixed signatures are well formed. -/
def Extension.validate (registry : Registry) (extension : Extension) : Outcome Unit := do
  extension.reqs.names.toList.forM fun name =>
    if registry.contains name then pure () else fail (.extensionNotFound name)
  extension.operations.values.forM fun definition => definition.validate registry

namespace Registry

def validate (registry : Registry) : Outcome Unit :=
  registry.toList.forM fun extension => extension.validate registry

/-- A registry all of whose extensions are well formed within it. -/
def closed (extensions : List Extension) : Outcome Registry := do
  let registry ← ofList extensions
  registry.validate
  pure registry

end Registry

end NestedFlow
