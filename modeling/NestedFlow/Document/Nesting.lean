import NestedFlow.Document
import NestedFlow.Json.Size

/-! How deeply the parts of a document lie in each other.

Types, parameters, arguments, values and signatures count, and every value of free data; what they stand in does not.
A document whose nesting is beyond `maxNesting` has no external form, and neither has one with a number of too many
digits.

A part on its own is measured by the description of its kind. Such descriptions follow one another in the order of
`Rank`: one refers to the kinds before its own and spells out the others, and to follow a reference takes a level more.
A whole document spells out everything.
-/

set_option autoImplicit false

namespace NestedFlow

def deepest (levels : List Nat) : Nat := levels.foldl max 0

/-! ### The places of the kinds of parts in the order of their descriptions -/

namespace Rank

/-- A whole document comes before all kinds. -/
def document : Nat := 0
def list : Nat := 1
def typeArg : Nat := 2
def sequenceArg : Nat := 3
def variableArg : Nat := 4
def custom : Nat := 5
def sum : Nat := 6
def tuple : Nat := 7
def function : Nat := 8

end Rank

/-- The levels that a part takes in a description: a kind of lower rank is referred to. -/
def levelsAt (rank described : Nat) : Nat := if rank < described then 2 else 1

/-- Parameters that are no lists count only in a whole document. -/
def Param.nesting (described : Nat) : Param → Nat
  | .list elem => elem.nesting (min Rank.list described) + levelsAt Rank.list described
  | _ => if described = Rank.document then 1 else 0

mutual

def TyDoc.nesting (described : Nat) : TyDoc → Nat
  | .custom _ _ args _ => ArgDoc.nestingOfAll (min Rank.custom described) args + levelsAt Rank.custom described
  | .sum variants => TyDoc.nestingOfRows (min Rank.sum described) variants + levelsAt Rank.sum described
  | .tuple row => TyDoc.nestingOfRow (min Rank.tuple described) row + levelsAt Rank.tuple described
  | .function input output _ =>
    max (TyDoc.nestingOfRow (min Rank.function described) input)
      (TyDoc.nestingOfRow (min Rank.function described) output) + levelsAt Rank.function described
  | .var _ _ => 1

def TyDoc.nestingOfRow (described : Nat) : List TyDoc → Nat
  | [] => 0
  | ty :: rest => max (TyDoc.nesting described ty) (TyDoc.nestingOfRow described rest)

def TyDoc.nestingOfRows (described : Nat) : List (List TyDoc) → Nat
  | [] => 0
  | row :: rest => max (TyDoc.nestingOfRow described row) (TyDoc.nestingOfRows described rest)

/-- A variable does not contain itself, so that a reference to its kind takes no level. -/
def ArgDoc.nesting (described : Nat) : ArgDoc → Nat
  | .type ty => TyDoc.nesting (min Rank.typeArg described) ty + levelsAt Rank.typeArg described
  | .sequence elems =>
    ArgDoc.nestingOfAll (min Rank.sequenceArg described) elems + levelsAt Rank.sequenceArg described
  | .var _ param => param.nesting (min Rank.variableArg described) + 1
  | _ => 1

def ArgDoc.nestingOfAll (described : Nat) : List ArgDoc → Nat
  | [] => 0
  | arg :: rest => max (ArgDoc.nesting described arg) (ArgDoc.nestingOfAll described rest)

end

/-- The nesting of a parameter on its own. -/
def Param.ownNesting (param : Param) : Nat := param.nesting Rank.list

/-- The nesting of a type on its own. -/
def TyDoc.ownNesting : TyDoc → Nat
  | .custom extension id args bound => TyDoc.nesting Rank.custom (.custom extension id args bound)
  | .sum variants => TyDoc.nesting Rank.sum (.sum variants)
  | .tuple row => TyDoc.nesting Rank.tuple (.tuple row)
  | ty => ty.nesting Rank.function

/-- The nesting of an argument on its own, where a variable takes no level. -/
def ArgDoc.ownNesting : ArgDoc → Nat
  | .type ty => ArgDoc.nesting Rank.typeArg (.type ty)
  | .var _ param => param.nesting Rank.variableArg
  | arg => arg.nesting Rank.sequenceArg

def SignatureDoc.nesting (signature : SignatureDoc) : Nat := signature.toTy.nesting Rank.document

/-- The nesting of parameters and a signature as parts of a document, which is also that on their own. -/
def SchemeDoc.nesting (scheme : SchemeDoc) : Nat :=
  max (deepest (scheme.params.map (Param.nesting Rank.document))) scheme.body.nesting

mutual

def ValueDoc.nesting : ValueDoc → Nat
  | .sum _ values => ValueDoc.nestingOfAll values + 1
  | .tuple values => ValueDoc.nestingOfAll values + 1
  | .extension typ payload => max (typ.nesting Rank.document) payload.depth + 1

def ValueDoc.nestingOfAll : List ValueDoc → Nat
  | [] => 0
  | value :: rest => max (ValueDoc.nesting value) (ValueDoc.nestingOfAll rest)

end

def OpDoc.nesting : OpDoc → Nat
  | .moduleRoot => 0
  | .funcDefn _ signature | .funcDecl _ signature => signature.nesting
  | .const value typ => max value.nesting (typ.nesting Rank.document)
  | .input types | .output types | .exit types | .lift types _ | .makeTuple types | .unpackTuple types =>
    TyDoc.nestingOfRow Rank.document types
  | .dfg inputs outputs _ | .branch inputs outputs _ | .cfg inputs outputs _ =>
    TyDoc.nestingOfRows Rank.document [inputs, outputs]
  | .conditional sumRows otherInputs outputs _ =>
    TyDoc.nestingOfRows Rank.document (otherInputs :: outputs :: sumRows)
  | .tailLoop justInputs justOutputs rest _ => TyDoc.nestingOfRows Rank.document [justInputs, justOutputs, rest]
  | .block inputs sumRows otherOutputs _ => TyDoc.nestingOfRows Rank.document (inputs :: otherOutputs :: sumRows)
  | .call function typeArgs signature | .loadFunction function typeArgs signature =>
    deepest [function.nesting, ArgDoc.nestingOfAll Rank.document typeArgs, signature.nesting]
  | .callIndirect signature => signature.nesting
  | .loadConstant ty | .noop ty => ty.nesting Rank.document
  | .tag _ variants => TyDoc.nestingOfRows Rank.document variants
  | .extension _ _ args => ArgDoc.nestingOfAll Rank.document args

def NodeDoc.nesting (node : NodeDoc) : Nat :=
  max node.op.nesting (Json.depthOfFields (node.metadata.getD []))

def ProgramDoc.nesting (program : ProgramDoc) : Nat := deepest (program.nodes.map NodeDoc.nesting)

def OpDefDoc.nesting (definition : OpDefDoc) : Nat :=
  max (Json.depthOfFields definition.misc) ((definition.signature.map SchemeDoc.nesting).getD 0)

def ExtensionDoc.nesting (extension : ExtensionDoc) : Nat :=
  deepest [deepest (extension.types.map fun definition =>
      deepest (definition.params.map (Param.nesting Rank.document))),
    deepest (extension.operations.map OpDefDoc.nesting),
    deepest (extension.values.map fun named => max named.value.nesting (named.typ.nesting Rank.document))]

end NestedFlow
