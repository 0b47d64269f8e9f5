import NestedFlow.Document.Encode
import NestedFlow.Document.Nesting
import NestedFlow.Document.Writer
import NestedFlow.Json.Writer

/-! The external form of documents and their parts.

Data has the limits of the nesting of parts; text has those of the nesting of all values.
-/

set_option autoImplicit false

namespace NestedFlow

/-- Data with a nesting, if that is not too deep and all numbers and keys can be written. -/
def exported (nesting : Nat) (data : Json) : Outcome Json :=
  if nesting ≤ maxNesting && data.isWritable then
    if data.hasPlainKeys then pure data else fail (.breakdown .encoding)
  else fail (.breakdown .value)

/-- The width of an indentation is a number of eight bytes. -/
def indentWidth (indent : Option Int) : Outcome (Option Nat) :=
  match indent with
  | none => pure none
  | some width => if 0 ≤ width ∧ width < Int.pow 2 64 then pure (some width.toNat) else fail (.breakdown .range)

/-- The text of data, if no part of it is nested too deeply and all of it is made of characters alone. -/
def written (nesting : Nat) (data : Json) (indent : Option Int) : Outcome String := do
  let width ← indentWidth indent
  if nesting ≤ maxNesting && data.isPlain then pure (data.toText width) else fail (.breakdown .text)

def Param.toData (param : Param) : Outcome Json := exported param.ownNesting (param.toJson .full)

def Ty.toData (ty : Ty) : Outcome Json := exported ty.encode.ownNesting (ty.encode.toJson .full)

def Arg.toData (arg : Arg) : Outcome Json := exported arg.encode.ownNesting (arg.encode.toJson .full)

/-- A signature is measured on its own, as a function type. -/
def Signature.toData (signature : Signature) : Outcome Json :=
  exported signature.encode.toTy.ownNesting (signature.encode.toJson .full)

def Scheme.toData (scheme : Scheme) : Outcome Json := exported scheme.encode.nesting (scheme.encode.toJson .full)

def Op.toData (op : Op) : Outcome Json := do
  let doc ← op.encode
  exported doc.nesting (doc.toJson .full)

/-! ### The nesting of all values, where the parts of a document are measured apart -/

def NodeDoc.textNesting (node : NodeDoc) : Nat :=
  max (node.op.toJson .compact).depth (Json.depthOfFields (node.metadata.getD []))

def ProgramDoc.textNesting (program : ProgramDoc) : Nat := deepest (program.nodes.map NodeDoc.textNesting)

def paramsTextNesting (params : List Param) : Nat := deepest (params.map fun param => (param.toJson .full).depth)

def SchemeDoc.textNesting (scheme : SchemeDoc) : Nat :=
  deepest [paramsTextNesting scheme.params, (jsonRow .full scheme.body.input).depth,
    (jsonRow .full scheme.body.output).depth]

def OpDefDoc.textNesting (definition : OpDefDoc) : Nat :=
  max (Json.depthOfFields definition.misc) ((definition.signature.map SchemeDoc.textNesting).getD 0)

def NamedValueDoc.textNesting (named : NamedValueDoc) : Nat :=
  max (named.value.toJson .full).depth (named.typ.toJson .full).depth

def ExtensionDoc.textNesting (extension : ExtensionDoc) : Nat :=
  deepest [deepest (extension.types.map fun definition => paramsTextNesting definition.params),
    deepest (extension.operations.map OpDefDoc.textNesting), deepest (extension.values.map NamedValueDoc.textNesting)]

end NestedFlow
