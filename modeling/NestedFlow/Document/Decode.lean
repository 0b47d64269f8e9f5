import NestedFlow.Document
import NestedFlow.Extension
import NestedFlow.Program

/-! Types, values and operations of documents.

Whatever a document refers to is resolved against a registry. An instance of a type definition is instantiated anew,
so its bound is that of the definition whatever the document says, and so is an operation of an extension.
-/

set_option autoImplicit false

namespace NestedFlow

mutual

def TyDoc.decode (registry : Registry) : TyDoc → Outcome Ty
  | .custom extension id args _ => do
    let args ← ArgDoc.decodeAll registry args
    registry.instantiateType extension id args
  | .sum variants => do
    let variants ← TyDoc.decodeRows registry variants
    pure (.sum variants)
  | .tuple row => do
    let row ← TyDoc.decodeRow registry row
    pure (.tuple row)
  | .function input output reqs => do
    let input ← TyDoc.decodeRow registry input
    let output ← TyDoc.decodeRow registry output
    let reqs ← ExtensionSet.ofStrings reqs
    pure (.function input output reqs)
  | .var index bound => pure (.var index bound)

def TyDoc.decodeRow (registry : Registry) : List TyDoc → Outcome (List Ty)
  | [] => pure []
  | ty :: rest => do
    let ty ← TyDoc.decode registry ty
    let rest ← TyDoc.decodeRow registry rest
    pure (ty :: rest)

def TyDoc.decodeRows (registry : Registry) : List (List TyDoc) → Outcome (List (List Ty))
  | [] => pure []
  | row :: rest => do
    let row ← TyDoc.decodeRow registry row
    let rest ← TyDoc.decodeRows registry rest
    pure (row :: rest)

def ArgDoc.decode (registry : Registry) : ArgDoc → Outcome Arg
  | .type ty => do
    let ty ← TyDoc.decode registry ty
    pure (.type ty)
  | .nat value => pure (.nat value)
  | .string value => pure (.string value)
  | .extensions entries => do
    let set ← ExtensionSet.ofStrings entries
    pure (.extensions set)
  | .sequence elems => do
    let elems ← ArgDoc.decodeAll registry elems
    pure (.sequence elems)
  | .var index param => pure (.var index param)

def ArgDoc.decodeAll (registry : Registry) : List ArgDoc → Outcome (List Arg)
  | [] => pure []
  | arg :: rest => do
    let arg ← ArgDoc.decode registry arg
    let rest ← ArgDoc.decodeAll registry rest
    pure (arg :: rest)

end

def SignatureDoc.decode (registry : Registry) (signature : SignatureDoc) : Outcome Signature := do
  let input ← TyDoc.decodeRow registry signature.input
  let output ← TyDoc.decodeRow registry signature.output
  let reqs ← ExtensionSet.ofStrings signature.reqs
  pure ⟨input, output, reqs⟩

def SchemeDoc.decode (registry : Registry) (scheme : SchemeDoc) : Outcome Scheme := do
  let body ← scheme.body.decode registry
  pure ⟨scheme.params, body⟩

mutual

def ValueDoc.decode (registry : Registry) : ValueDoc → Outcome Value
  | .sum tag values => do
    let values ← ValueDoc.decodeAll registry values
    pure (.sum tag values)
  | .tuple values => do
    let values ← ValueDoc.decodeAll registry values
    pure (.tuple values)
  | .extension typ payload => do
    let typ ← typ.decode registry
    pure (.extension typ payload)

def ValueDoc.decodeAll (registry : Registry) : List ValueDoc → Outcome (List Value)
  | [] => pure []
  | value :: rest => do
    let value ← ValueDoc.decode registry value
    let rest ← ValueDoc.decodeAll registry rest
    pure (value :: rest)

end

def decodeDelta : Option (List String) → Outcome (Option ExtensionSet)
  | none => pure none
  | some entries => do
    let set ← ExtensionSet.ofStrings entries
    pure (some set)

def OpDoc.decode (registry : Registry) : OpDoc → Outcome Op
  | .moduleRoot => pure .moduleRoot
  | .funcDefn name signature => do
    let signature ← signature.decode registry
    pure (.funcDefn name signature)
  | .funcDecl name signature => do
    let signature ← signature.decode registry
    pure (.funcDecl name signature)
  | .const value typ => do
    let value ← value.decode registry
    let typ ← typ.decode registry
    pure (.const value typ)
  | .input types => do
    let types ← TyDoc.decodeRow registry types
    pure (.input types)
  | .output types => do
    let types ← TyDoc.decodeRow registry types
    pure (.output types)
  | .dfg inputs outputs delta => do
    let inputs ← TyDoc.decodeRow registry inputs
    let outputs ← TyDoc.decodeRow registry outputs
    let delta ← decodeDelta delta
    pure (.dfg inputs outputs delta)
  | .conditional sumRows otherInputs outputs delta => do
    let sumRows ← TyDoc.decodeRows registry sumRows
    let otherInputs ← TyDoc.decodeRow registry otherInputs
    let outputs ← TyDoc.decodeRow registry outputs
    let delta ← decodeDelta delta
    pure (.conditional sumRows otherInputs outputs delta)
  | .branch inputs outputs delta => do
    let inputs ← TyDoc.decodeRow registry inputs
    let outputs ← TyDoc.decodeRow registry outputs
    let delta ← decodeDelta delta
    pure (.branch inputs outputs delta)
  | .tailLoop justInputs justOutputs rest delta => do
    let justInputs ← TyDoc.decodeRow registry justInputs
    let justOutputs ← TyDoc.decodeRow registry justOutputs
    let rest ← TyDoc.decodeRow registry rest
    let delta ← decodeDelta delta
    pure (.tailLoop justInputs justOutputs rest delta)
  | .cfg inputs outputs delta => do
    let inputs ← TyDoc.decodeRow registry inputs
    let outputs ← TyDoc.decodeRow registry outputs
    let delta ← decodeDelta delta
    pure (.cfg inputs outputs delta)
  | .block inputs sumRows otherOutputs delta => do
    let inputs ← TyDoc.decodeRow registry inputs
    let sumRows ← TyDoc.decodeRows registry sumRows
    let otherOutputs ← TyDoc.decodeRow registry otherOutputs
    let delta ← decodeDelta delta
    pure (.block inputs sumRows otherOutputs delta)
  | .exit outputs => do
    let outputs ← TyDoc.decodeRow registry outputs
    pure (.exit outputs)
  | .call function typeArgs instantiation => do
    let function ← function.decode registry
    let typeArgs ← ArgDoc.decodeAll registry typeArgs
    let instantiation ← instantiation.decode registry
    pure (.call function typeArgs instantiation)
  | .callIndirect signature => do
    let signature ← signature.decode registry
    pure (.callIndirect signature)
  | .loadConstant datatype => do
    let datatype ← datatype.decode registry
    pure (.loadConstant datatype)
  | .loadFunction function typeArgs signature => do
    let function ← function.decode registry
    let typeArgs ← ArgDoc.decodeAll registry typeArgs
    let signature ← signature.decode registry
    pure (.loadFunction function typeArgs signature)
  | .tag index variants => do
    let variants ← TyDoc.decodeRows registry variants
    Op.tagAt index variants
  | .lift types newExtension => do
    let types ← TyDoc.decodeRow registry types
    pure (.lift types newExtension)
  | .makeTuple types => do
    let types ← TyDoc.decodeRow registry types
    pure (.makeTuple types)
  | .unpackTuple types => do
    let types ← TyDoc.decodeRow registry types
    pure (.unpackTuple types)
  | .noop ty => do
    let ty ← ty.decode registry
    pure (.noop ty)
  | .extension owner name args => do
    let args ← ArgDoc.decodeAll registry args
    registry.instantiateOp owner name args

end NestedFlow
