import NestedFlow.Document.Decode
import NestedFlow.Document.Export
import NestedFlow.Document.Reader
import NestedFlow.Extension.Standard
import NestedFlow.Json.Reader

/-! The external form of extensions.

A rule that computes signatures is lost; the operation is decoded as one without a rule. Types in signatures and
values are resolved against the extension itself, which takes the place of a known one of the same name.
-/

set_option autoImplicit false

namespace NestedFlow

def TypeDef.encode (definition : TypeDef) : TypeDefDoc where
  name := definition.name
  params := definition.params
  description := definition.description
  bound := match definition.bound with
    | .fixed bound => some bound
    | .fromArgs _ => none
  boundFrom := definition.boundFrom?

def OpDef.encode (definition : OpDef) : OpDefDoc where
  name := definition.name
  description := definition.description
  misc := definition.misc
  signature := match definition.rule with
    | .fixed scheme => some scheme.encode
    | _ => none

def NamedValue.encode (named : NamedValue) : Outcome NamedValueDoc := do
  let value ← named.value.encode
  pure ⟨named.name, value, named.typ.encode⟩

def Extension.encode (extension : Extension) : Outcome ExtensionDoc := do
  let values ← extension.values.values.mapM NamedValue.encode
  pure ⟨extension.name, extension.version, extension.description, extension.reqs.toStrings,
    extension.types.values.map TypeDef.encode, extension.operations.values.map OpDef.encode, values⟩

/-- The full external form, as data. -/
def Extension.toData (extension : Extension) : Outcome Json := do
  let doc ← extension.encode
  exported doc.nesting (doc.toJson .full)

/-- The full external form, as text. -/
def Extension.toText (extension : Extension) : Outcome String := do
  let doc ← extension.encode
  written doc.textNesting (doc.toJson .full) none

/-- The rule for the bound: positions of arguments if they are given. -/
def TypeDefDoc.boundRule (doc : TypeDefDoc) : BoundRule :=
  match doc.boundFrom with
  | some positions => .fromArgs positions
  | none => .fixed (doc.bound.getD .copyable)

namespace ExtensionDoc

def addType (extension : Extension) (doc : TypeDefDoc) : Outcome Extension :=
  extension.addType doc.name doc.params doc.description doc.boundRule

def addOp (scope : Registry) (extension : Extension) (doc : OpDefDoc) : Outcome Extension := do
  match doc.signature with
  | none => extension.addOp doc.name .absent doc.description doc.misc
  | some signature =>
    let scheme ← signature.decode scope
    extension.addOp doc.name (.fixed scheme) doc.description doc.misc

def addValue (scope : Registry) (extension : Extension) (doc : NamedValueDoc) : Outcome Extension := do
  let value ← doc.value.decode scope
  let typ ← doc.typ.decode scope
  extension.addValue doc.name value typ

def decode (known : Registry) (doc : ExtensionDoc) : Outcome Extension := do
  let reqs ← ExtensionSet.ofStrings doc.reqs
  let extension ← Extension.create doc.name doc.version reqs doc.description
  let extension ← doc.types.foldlM addType extension
  let others := known.toList.filter fun other => other.name != extension.name
  let scope ← Registry.ofList (others ++ [extension])
  let extension ← doc.operations.foldlM (addOp scope) extension
  doc.values.foldlM (addValue scope) extension

end ExtensionDoc

namespace Extension

/-- An extension from data. -/
def ofJson (known : Registry) (data : Json) : Outcome Extension :=
  match ExtensionDoc.ofJson? data with
  | some doc => doc.decode known
  | none => fail (.breakdown .model)

/-- The most values that lie in each other in the text of an extension. -/
def maxTextDepth : Nat := 201

/-- An extension from its text. -/
def ofText (known : Registry) (text : String) : Outcome Extension :=
  match Json.ofText text with
  | .ok data => if data.depth ≤ maxTextDepth then ofJson known data else fail (.breakdown .model)
  | .error _ => fail (.breakdown .model)

end Extension

end NestedFlow
