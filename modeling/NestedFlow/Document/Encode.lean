import NestedFlow.Document
import NestedFlow.Op
import NestedFlow.Fault

/-! Documents of types, values and operations.

An instance of a type definition keeps its name, arguments and bound, an operation of an extension its name and
arguments. Only data in the place of a value has no external form.
-/

set_option autoImplicit false

namespace NestedFlow

mutual

def Ty.encode : Ty → TyDoc
  | .custom extension name args bound _ => .custom extension name (Arg.encodeAll args) bound
  | .sum variants => .sum (Row.encodeAll variants)
  | .tuple row => .tuple (Row.encode row)
  | .function input output reqs => .function (Row.encode input) (Row.encode output) reqs.toStrings
  | .var index bound => .var index bound

def Row.encode : List Ty → List TyDoc
  | [] => []
  | ty :: rest => Ty.encode ty :: Row.encode rest

def Row.encodeAll : List (List Ty) → List (List TyDoc)
  | [] => []
  | row :: rest => Row.encode row :: Row.encodeAll rest

def Arg.encode : Arg → ArgDoc
  | .type ty => .type (Ty.encode ty)
  | .nat value => .nat value
  | .string value => .string value
  | .extensions set => .extensions set.toStrings
  | .sequence elems => .sequence (Arg.encodeAll elems)
  | .var index param => .var index param

def Arg.encodeAll : List Arg → List ArgDoc
  | [] => []
  | arg :: rest => Arg.encode arg :: Arg.encodeAll rest

end

def Signature.encode (signature : Signature) : SignatureDoc :=
  ⟨Row.encode signature.input, Row.encode signature.output, signature.reqs.toStrings⟩

def Scheme.encode (scheme : Scheme) : SchemeDoc := ⟨scheme.params, scheme.body.encode⟩

mutual

def Value.encode : Value → Outcome ValueDoc
  | .sum tag values => do
    let values ← Value.encodeAll values
    pure (.sum tag values)
  | .tuple values => do
    let values ← Value.encodeAll values
    pure (.tuple values)
  | .extension typ payload => pure (.extension typ.encode payload)
  | .raw _ => fail (.breakdown .type)

def Value.encodeAll : List Value → Outcome (List ValueDoc)
  | [] => pure []
  | value :: rest => do
    let value ← Value.encode value
    let rest ← Value.encodeAll rest
    pure (value :: rest)

end

def encodeDelta (delta : Option ExtensionSet) : Option (List String) := delta.map ExtensionSet.toStrings

def Op.encode : Op → Outcome OpDoc
  | .moduleRoot => pure .moduleRoot
  | .funcDefn name signature => pure (.funcDefn name signature.encode)
  | .funcDecl name signature => pure (.funcDecl name signature.encode)
  | .const value typ => do
    let value ← value.encode
    pure (.const value typ.encode)
  | .input types => pure (.input (Row.encode types))
  | .output types => pure (.output (Row.encode types))
  | .dfg inputs outputs delta => pure (.dfg (Row.encode inputs) (Row.encode outputs) (encodeDelta delta))
  | .conditional sumRows otherInputs outputs delta =>
    pure (.conditional (Row.encodeAll sumRows) (Row.encode otherInputs) (Row.encode outputs) (encodeDelta delta))
  | .branch inputs outputs delta => pure (.branch (Row.encode inputs) (Row.encode outputs) (encodeDelta delta))
  | .tailLoop justInputs justOutputs rest delta =>
    pure (.tailLoop (Row.encode justInputs) (Row.encode justOutputs) (Row.encode rest) (encodeDelta delta))
  | .cfg inputs outputs delta => pure (.cfg (Row.encode inputs) (Row.encode outputs) (encodeDelta delta))
  | .block inputs sumRows otherOutputs delta =>
    pure (.block (Row.encode inputs) (Row.encodeAll sumRows) (Row.encode otherOutputs) (encodeDelta delta))
  | .exit outputs => pure (.exit (Row.encode outputs))
  | .call function typeArgs instantiation =>
    pure (.call function.encode (Arg.encodeAll typeArgs) instantiation.encode)
  | .callIndirect signature => pure (.callIndirect signature.encode)
  | .loadConstant datatype => pure (.loadConstant datatype.encode)
  | .loadFunction function typeArgs signature =>
    pure (.loadFunction function.encode (Arg.encodeAll typeArgs) signature.encode)
  | .tag variants index => pure (.tag index.val (Row.encodeAll variants))
  | .lift types newExtension => pure (.lift (Row.encode types) newExtension)
  | .makeTuple types => pure (.makeTuple (Row.encode types))
  | .unpackTuple types => pure (.unpackTuple (Row.encode types))
  | .noop ty => pure (.noop ty.encode)
  | .extension owner name args _ => pure (.extension owner name (Arg.encodeAll args))

end NestedFlow
