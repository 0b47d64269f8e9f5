import NestedFlow.Document
import NestedFlow.Document.Schema

/-! Documents from data.

The readers of nested parts take the depth that is left for them; what is nested more deeply than `maxNesting` is not
read. A document that is not read names the first node that is to blame, if it is one of the nodes.
-/

set_option autoImplicit false

namespace NestedFlow

open Schema

def Bound.ofJson? (value : Json) : Option Bound := (text? value).bind Bound.ofText?

def EdgeKind.ofJson? (value : Json) : Option EdgeKind := (text? value).bind EdgeKind.ofText?

namespace Param

def read? : Nat → Json → Option Param
  | 0, _ => none
  | depth + 1, value => do
    match ← tag? "tp" value with
    | "Type" =>
      let fields ← record? ["tp", "b"] value
      let bound ← optional? fields "b" .linear Bound.ofJson?
      pure (.type bound)
    | "BoundedNat" =>
      let fields ← record? ["tp", "bound"] value
      let upper ← optional? fields "bound" none (nullable? int?)
      pure (.nat upper)
    | "String" =>
      let _ ← record? ["tp"] value
      pure .string
    | "Extensions" =>
      let _ ← record? ["tp"] value
      pure .extensions
    | "List" =>
      let fields ← record? ["tp", "param"] value
      let elem ← required? fields "param" (read? depth)
      pure (.list elem)
    | _ => none

def ofJson? : Json → Option Param := read? maxNesting

/-- A parameter on its own, where only lists count. -/
def ofData? : Json → Option Param := read? (maxNesting + 1)

end Param

mutual

def TyDoc.read? : Nat → Json → Option TyDoc
  | 0, _ => none
  | depth + 1, value => do
    match ← tag? "t" value with
    | "Opaque" =>
      let fields ← record? ["t", "extension", "id", "args", "bound"] value
      let extension ← required? fields "extension" text?
      let id ← required? fields "id" text?
      let args ← optional? fields "args" [] (list? (ArgDoc.read? depth))
      let bound ← optional? fields "bound" .copyable Bound.ofJson?
      pure (.custom extension id args bound)
    | "Sum" =>
      let fields ← record? ["t", "variants"] value
      let variants ← optional? fields "variants" [] (list? (list? (TyDoc.read? depth)))
      pure (.sum variants)
    | "Tuple" =>
      let fields ← record? ["t", "row"] value
      let row ← optional? fields "row" [] (list? (TyDoc.read? depth))
      pure (.tuple row)
    | "Function" =>
      let fields ← record? ["t", "input", "output", "extension_reqs"] value
      let input ← optional? fields "input" [] (list? (TyDoc.read? depth))
      let output ← optional? fields "output" [] (list? (TyDoc.read? depth))
      let reqs ← optional? fields "extension_reqs" [] texts?
      pure (.function input output reqs)
    | "V" =>
      let fields ← record? ["t", "i", "b"] value
      let index ← required? fields "i" int?
      let bound ← optional? fields "b" .linear Bound.ofJson?
      pure (.var index bound)
    | _ => none

def ArgDoc.read? : Nat → Json → Option ArgDoc
  | 0, _ => none
  | depth + 1, value => do
    match ← tag? "tya" value with
    | "Type" =>
      let fields ← record? ["tya", "ty"] value
      let ty ← required? fields "ty" (TyDoc.read? depth)
      pure (.type ty)
    | "BoundedNat" =>
      let fields ← record? ["tya", "n"] value
      let n ← required? fields "n" int?
      pure (.nat n)
    | "String" =>
      let fields ← record? ["tya", "arg"] value
      let text ← required? fields "arg" text?
      pure (.string text)
    | "Extensions" =>
      let fields ← record? ["tya", "es"] value
      let entries ← optional? fields "es" [] texts?
      pure (.extensions entries)
    | "Sequence" =>
      let fields ← record? ["tya", "elems"] value
      let elems ← optional? fields "elems" [] (list? (ArgDoc.read? depth))
      pure (.sequence elems)
    | "Variable" =>
      let fields ← record? ["tya", "idx", "cached_decl"] value
      let index ← required? fields "idx" int?
      let param ← required? fields "cached_decl" (Param.read? depth)
      pure (.var index param)
    | _ => none

end

def TyDoc.ofJson? : Json → Option TyDoc := TyDoc.read? maxNesting

def ArgDoc.ofJson? : Json → Option ArgDoc := ArgDoc.read? maxNesting

def rowOfJson? : Json → Option (List TyDoc) := list? TyDoc.ofJson?

def rowsOfJson? : Json → Option (List (List TyDoc)) := list? rowOfJson?

/-- Where only a signature can stand, its tag may be absent. Its rows lie one level below it. -/
def SignatureDoc.ofJson? (value : Json) : Option SignatureDoc := do
  let fields ← record? ["t", "input", "output", "extension_reqs"] value
  literal? fields "t" "Function"
  let row? := list? (TyDoc.read? (maxNesting - 1))
  let input ← optional? fields "input" [] row?
  let output ← optional? fields "output" [] row?
  let reqs ← optional? fields "extension_reqs" [] texts?
  pure ⟨input, output, reqs⟩

def SchemeDoc.ofJson? (value : Json) : Option SchemeDoc := do
  let fields ← record? ["params", "body"] value
  let params ← optional? fields "params" [] (list? Param.ofJson?)
  let body ← required? fields "body" SignatureDoc.ofJson?
  pure ⟨params, body⟩

namespace ValueDoc

def read? : Nat → Json → Option ValueDoc
  | 0, _ => none
  | depth + 1, value => do
    match ← tag? "v" value with
    | "Sum" =>
      let fields ← record? ["v", "tag", "vs"] value
      let tag ← required? fields "tag" int?
      let values ← optional? fields "vs" [] (list? (read? depth))
      pure (.sum tag values)
    | "Tuple" =>
      let fields ← record? ["v", "vs"] value
      let values ← optional? fields "vs" [] (list? (read? depth))
      pure (.tuple values)
    | "Extension" =>
      let fields ← record? ["v", "typ", "value"] value
      let typ ← required? fields "typ" (TyDoc.read? depth)
      let payload ← optional? fields "value" .null some
      pure (.extension typ payload)
    | _ => none

def ofJson? : Json → Option ValueDoc := read? maxNesting

end ValueDoc

namespace OpDoc

/-- The two rows and the requirements that most regions have. -/
def regionOfJson? (value : Json) : Option (List TyDoc × List TyDoc × Option (List String)) := do
  let fields ← record? ["op", "inputs", "outputs", "delta"] value
  let inputs ← optional? fields "inputs" [] rowOfJson?
  let outputs ← optional? fields "outputs" [] rowOfJson?
  let delta ← optional? fields "delta" none (nullable? texts?)
  pure (inputs, outputs, delta)

/-- An operation with a single field, a row. -/
def rowField? (name : String) (value : Json) : Option (List TyDoc) := do
  let fields ← record? ["op", name] value
  optional? fields name [] rowOfJson?

/-- A polymorphic function with arguments and the signature that they give. -/
def useOfJson? (signatureName : String) (value : Json) : Option (SchemeDoc × List ArgDoc × SignatureDoc) := do
  let fields ← record? ["op", "func_sig", "type_args", signatureName] value
  let function ← required? fields "func_sig" SchemeDoc.ofJson?
  let args ← optional? fields "type_args" [] (list? ArgDoc.ofJson?)
  let signature ← required? fields signatureName SignatureDoc.ofJson?
  pure (function, args, signature)

def functionOfJson? (value : Json) : Option (String × SchemeDoc) := do
  let fields ← record? ["op", "name", "signature"] value
  let name ← required? fields "name" text?
  let signature ← required? fields "signature" SchemeDoc.ofJson?
  pure (name, signature)

def ofJson? (value : Json) : Option OpDoc := do
  match ← tag? "op" value with
  | "Module" =>
    let _ ← record? ["op"] value
    pure .moduleRoot
  | "FuncDefn" => (functionOfJson? value).map fun (name, signature) => .funcDefn name signature
  | "FuncDecl" => (functionOfJson? value).map fun (name, signature) => .funcDecl name signature
  | "Const" =>
    let fields ← record? ["op", "value", "typ"] value
    let constant ← required? fields "value" ValueDoc.ofJson?
    let typ ← required? fields "typ" TyDoc.ofJson?
    pure (.const constant typ)
  | "Input" => (rowField? "types" value).map .input
  | "Output" => (rowField? "types" value).map .output
  | "DFG" => (regionOfJson? value).map fun (inputs, outputs, delta) => .dfg inputs outputs delta
  | "Conditional" =>
    let fields ← record? ["op", "sum_rows", "other_inputs", "outputs", "delta"] value
    let sumRows ← optional? fields "sum_rows" [] rowsOfJson?
    let otherInputs ← optional? fields "other_inputs" [] rowOfJson?
    let outputs ← optional? fields "outputs" [] rowOfJson?
    let delta ← optional? fields "delta" none (nullable? texts?)
    pure (.conditional sumRows otherInputs outputs delta)
  | "Case" => (regionOfJson? value).map fun (inputs, outputs, delta) => .branch inputs outputs delta
  | "TailLoop" =>
    let fields ← record? ["op", "just_inputs", "just_outputs", "rest", "delta"] value
    let justInputs ← optional? fields "just_inputs" [] rowOfJson?
    let justOutputs ← optional? fields "just_outputs" [] rowOfJson?
    let rest ← optional? fields "rest" [] rowOfJson?
    let delta ← optional? fields "delta" none (nullable? texts?)
    pure (.tailLoop justInputs justOutputs rest delta)
  | "CFG" => (regionOfJson? value).map fun (inputs, outputs, delta) => .cfg inputs outputs delta
  | "DataflowBlock" =>
    let fields ← record? ["op", "inputs", "sum_rows", "other_outputs", "delta"] value
    let inputs ← optional? fields "inputs" [] rowOfJson?
    let sumRows ← optional? fields "sum_rows" [] rowsOfJson?
    let otherOutputs ← optional? fields "other_outputs" [] rowOfJson?
    let delta ← optional? fields "delta" none (nullable? texts?)
    pure (.block inputs sumRows otherOutputs delta)
  | "ExitBlock" => (rowField? "cfg_outputs" value).map .exit
  | "Call" => (useOfJson? "instantiation" value).map fun (function, args, signature) => .call function args signature
  | "CallIndirect" =>
    let fields ← record? ["op", "signature"] value
    let signature ← required? fields "signature" SignatureDoc.ofJson?
    pure (.callIndirect signature)
  | "LoadConstant" =>
    let fields ← record? ["op", "datatype"] value
    let datatype ← required? fields "datatype" TyDoc.ofJson?
    pure (.loadConstant datatype)
  | "LoadFunction" =>
    (useOfJson? "signature" value).map fun (function, args, signature) => .loadFunction function args signature
  | "Tag" =>
    let fields ← record? ["op", "tag", "variants"] value
    let tag ← required? fields "tag" int?
    let variants ← optional? fields "variants" [] rowsOfJson?
    pure (.tag tag variants)
  | "Lift" =>
    let fields ← record? ["op", "type_row", "new_extension"] value
    let types ← optional? fields "type_row" [] rowOfJson?
    let extension ← required? fields "new_extension" text?
    pure (.lift types extension)
  | "MakeTuple" => (rowField? "tys" value).map .makeTuple
  | "UnpackTuple" => (rowField? "tys" value).map .unpackTuple
  | "Noop" =>
    let fields ← record? ["op", "ty"] value
    let ty ← required? fields "ty" TyDoc.ofJson?
    pure (.noop ty)
  | "ExtensionOp" =>
    let fields ← record? ["op", "extension", "name", "args"] value
    let extension ← required? fields "extension" text?
    let name ← required? fields "name" text?
    let args ← optional? fields "args" [] (list? ArgDoc.ofJson?)
    pure (.extension extension name args)
  | _ => none

end OpDoc

def NodeDoc.ofJson? (value : Json) : Option NodeDoc := do
  let fields ← record? ["parent", "op", "metadata"] value
  let parent ← optional? fields "parent" none (nullable? int?)
  let op ← required? fields "op" OpDoc.ofJson?
  let metadata ← optional? fields "metadata" none (nullable? fields?)
  pure ⟨parent, op, metadata⟩

def endOfJson? : Json → Option (Int × Int)
  | .arr [node, offset] => do
    let node ← int? node
    let offset ← int? offset
    pure (node, offset)
  | _ => none

def EdgeDoc.ofJson? (value : Json) : Option EdgeDoc := do
  let fields ← record? ["src", "tgt", "kind"] value
  let source ← required? fields "src" endOfJson?
  let target ← required? fields "tgt" endOfJson?
  let kind ← optional? fields "kind" .value EdgeKind.ofJson?
  pure ⟨source, target, kind⟩

namespace ProgramDoc

def ofFields? (fields : List (String × Json)) : Option ProgramDoc := do
  let fields ← record? ["version", "nodes", "edges"] (.obj fields)
  literal? fields "version" documentVersion
  let nodes ← optional? fields "nodes" [] (list? NodeDoc.ofJson?)
  let edges ← optional? fields "edges" [] (list? EdgeDoc.ofJson?)
  pure ⟨nodes, edges⟩

/-- The position of the first node that is not read. -/
def firstBad? (fields : List (String × Json)) : Option Nat :=
  match Json.field? "nodes" fields with
  | some (.arr nodes) => nodes.findIdx? fun node => (NodeDoc.ofJson? node).isNone
  | _ => none

end ProgramDoc

def TypeDefDoc.ofJson? (value : Json) : Option TypeDefDoc := do
  let fields ← record? ["name", "params", "description", "bound", "bound_from_params"] value
  let name ← required? fields "name" text?
  let params ← optional? fields "params" [] (list? Param.ofJson?)
  let description ← optional? fields "description" "" text?
  let bound ← optional? fields "bound" none (nullable? Bound.ofJson?)
  let boundFrom ← optional? fields "bound_from_params" none (nullable? (list? int?))
  pure ⟨name, params, description, bound, boundFrom⟩

def OpDefDoc.ofJson? (value : Json) : Option OpDefDoc := do
  let fields ← record? ["name", "description", "misc", "signature"] value
  let name ← required? fields "name" text?
  let description ← optional? fields "description" "" text?
  let misc ← optional? fields "misc" [] fields?
  let signature ← optional? fields "signature" none (nullable? SchemeDoc.ofJson?)
  pure ⟨name, description, misc, signature⟩

def NamedValueDoc.ofJson? (value : Json) : Option NamedValueDoc := do
  let fields ← record? ["name", "value", "typ"] value
  let name ← required? fields "name" text?
  let constant ← required? fields "value" ValueDoc.ofJson?
  let typ ← required? fields "typ" TyDoc.ofJson?
  pure ⟨name, constant, typ⟩

def ExtensionDoc.ofJson? (value : Json) : Option ExtensionDoc := do
  let fields ← record? ["name", "version", "description", "extension_reqs", "types", "operations", "values"] value
  let name ← required? fields "name" text?
  let version ← optional? fields "version" "0.1.0" text?
  let description ← optional? fields "description" "" text?
  let reqs ← optional? fields "extension_reqs" [] texts?
  let types ← optional? fields "types" [] (list? TypeDefDoc.ofJson?)
  let operations ← optional? fields "operations" [] (list? OpDefDoc.ofJson?)
  let values ← optional? fields "values" [] (list? NamedValueDoc.ofJson?)
  pure ⟨name, version, description, reqs, types, operations, values⟩

end NestedFlow
