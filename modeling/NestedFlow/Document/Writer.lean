import NestedFlow.Document
import NestedFlow.Json.Portable

/-! Documents as data.

Every part has its fields in a fixed order, the tag of a union first. A field without a value is null in the full
form and absent in the compact one; free data is left as it is, in its portable form.
-/

set_option autoImplicit false

namespace NestedFlow

/-- Whether fields without a value are written. -/
inductive Form where
  | full
  | compact
  deriving DecidableEq

namespace Form

def keeps (form : Form) : Json → Bool
  | .null => form == .full
  | _ => true

def record (form : Form) (fields : List (String × Json)) : Json :=
  .obj (fields.filter fun field => form.keeps field.2)

end Form

def jsonTexts (texts : List String) : Json := .arr (texts.map .str)

def jsonOption {α : Type} (write : α → Json) : Option α → Json
  | none => .null
  | some value => write value

def Bound.toJson (bound : Bound) : Json := .str bound.text

def Param.toJson (form : Form) : Param → Json
  | .type bound => form.record [("tp", .str "Type"), ("b", bound.toJson)]
  | .nat upper => form.record [("tp", .str "BoundedNat"), ("bound", jsonOption .int upper)]
  | .string => form.record [("tp", .str "String")]
  | .extensions => form.record [("tp", .str "Extensions")]
  | .list elem => form.record [("tp", .str "List"), ("param", Param.toJson form elem)]

mutual

def TyDoc.toJson (form : Form) : TyDoc → Json
  | .custom extension id args bound =>
    form.record [("t", .str "Opaque"), ("extension", .str extension), ("id", .str id),
      ("args", .arr (ArgDoc.allToJson form args)), ("bound", bound.toJson)]
  | .sum variants => form.record [("t", .str "Sum"), ("variants", .arr (TyDoc.rowsToJson form variants))]
  | .tuple row => form.record [("t", .str "Tuple"), ("row", .arr (TyDoc.rowToJson form row))]
  | .function input output reqs =>
    form.record [("t", .str "Function"), ("input", .arr (TyDoc.rowToJson form input)),
      ("output", .arr (TyDoc.rowToJson form output)), ("extension_reqs", jsonTexts reqs)]
  | .var index bound => form.record [("t", .str "V"), ("i", .int index), ("b", bound.toJson)]

def TyDoc.rowToJson (form : Form) : List TyDoc → List Json
  | [] => []
  | ty :: rest => TyDoc.toJson form ty :: TyDoc.rowToJson form rest

def TyDoc.rowsToJson (form : Form) : List (List TyDoc) → List Json
  | [] => []
  | row :: rest => .arr (TyDoc.rowToJson form row) :: TyDoc.rowsToJson form rest

def ArgDoc.toJson (form : Form) : ArgDoc → Json
  | .type ty => form.record [("tya", .str "Type"), ("ty", TyDoc.toJson form ty)]
  | .nat value => form.record [("tya", .str "BoundedNat"), ("n", .int value)]
  | .string value => form.record [("tya", .str "String"), ("arg", .str value)]
  | .extensions entries => form.record [("tya", .str "Extensions"), ("es", jsonTexts entries)]
  | .sequence elems => form.record [("tya", .str "Sequence"), ("elems", .arr (ArgDoc.allToJson form elems))]
  | .var index param =>
    form.record [("tya", .str "Variable"), ("idx", .int index), ("cached_decl", param.toJson form)]

def ArgDoc.allToJson (form : Form) : List ArgDoc → List Json
  | [] => []
  | arg :: rest => ArgDoc.toJson form arg :: ArgDoc.allToJson form rest

end

def jsonRow (form : Form) (row : List TyDoc) : Json := .arr (TyDoc.rowToJson form row)

def jsonRows (form : Form) (rows : List (List TyDoc)) : Json := .arr (TyDoc.rowsToJson form rows)

def jsonArgs (form : Form) (args : List ArgDoc) : Json := .arr (ArgDoc.allToJson form args)

def SignatureDoc.toJson (form : Form) (signature : SignatureDoc) : Json := signature.toTy.toJson form

def SchemeDoc.toJson (form : Form) (scheme : SchemeDoc) : Json :=
  form.record [("params", .arr (scheme.params.map (Param.toJson form))), ("body", scheme.body.toJson form)]

mutual

def ValueDoc.toJson (form : Form) : ValueDoc → Json
  | .sum tag values =>
    form.record [("v", .str "Sum"), ("tag", .int tag), ("vs", .arr (ValueDoc.allToJson form values))]
  | .tuple values => form.record [("v", .str "Tuple"), ("vs", .arr (ValueDoc.allToJson form values))]
  | .extension typ payload =>
    .obj ([("v", .str "Extension"), ("typ", typ.toJson form)] ++
      if form.keeps payload then [("value", payload.portable)] else [])

def ValueDoc.allToJson (form : Form) : List ValueDoc → List Json
  | [] => []
  | value :: rest => ValueDoc.toJson form value :: ValueDoc.allToJson form rest

end

namespace OpDoc

def fields (form : Form) : OpDoc → List (String × Json)
  | .moduleRoot => [("op", .str "Module")]
  | .funcDefn name signature =>
    [("op", .str "FuncDefn"), ("name", .str name), ("signature", signature.toJson form)]
  | .funcDecl name signature =>
    [("op", .str "FuncDecl"), ("name", .str name), ("signature", signature.toJson form)]
  | .const value typ => [("op", .str "Const"), ("value", value.toJson form), ("typ", typ.toJson form)]
  | .input types => [("op", .str "Input"), ("types", jsonRow form types)]
  | .output types => [("op", .str "Output"), ("types", jsonRow form types)]
  | .dfg inputs outputs delta =>
    [("op", .str "DFG"), ("inputs", jsonRow form inputs), ("outputs", jsonRow form outputs),
      ("delta", jsonOption jsonTexts delta)]
  | .conditional sumRows otherInputs outputs delta =>
    [("op", .str "Conditional"), ("sum_rows", jsonRows form sumRows), ("other_inputs", jsonRow form otherInputs),
      ("outputs", jsonRow form outputs), ("delta", jsonOption jsonTexts delta)]
  | .branch inputs outputs delta =>
    [("op", .str "Case"), ("inputs", jsonRow form inputs), ("outputs", jsonRow form outputs),
      ("delta", jsonOption jsonTexts delta)]
  | .tailLoop justInputs justOutputs rest delta =>
    [("op", .str "TailLoop"), ("just_inputs", jsonRow form justInputs), ("just_outputs", jsonRow form justOutputs),
      ("rest", jsonRow form rest), ("delta", jsonOption jsonTexts delta)]
  | .cfg inputs outputs delta =>
    [("op", .str "CFG"), ("inputs", jsonRow form inputs), ("outputs", jsonRow form outputs),
      ("delta", jsonOption jsonTexts delta)]
  | .block inputs sumRows otherOutputs delta =>
    [("op", .str "DataflowBlock"), ("inputs", jsonRow form inputs), ("sum_rows", jsonRows form sumRows),
      ("other_outputs", jsonRow form otherOutputs), ("delta", jsonOption jsonTexts delta)]
  | .exit outputs => [("op", .str "ExitBlock"), ("cfg_outputs", jsonRow form outputs)]
  | .call function typeArgs instantiation =>
    [("op", .str "Call"), ("func_sig", function.toJson form), ("type_args", jsonArgs form typeArgs),
      ("instantiation", instantiation.toJson form)]
  | .callIndirect signature => [("op", .str "CallIndirect"), ("signature", signature.toJson form)]
  | .loadConstant datatype => [("op", .str "LoadConstant"), ("datatype", datatype.toJson form)]
  | .loadFunction function typeArgs signature =>
    [("op", .str "LoadFunction"), ("func_sig", function.toJson form), ("type_args", jsonArgs form typeArgs),
      ("signature", signature.toJson form)]
  | .tag index variants => [("op", .str "Tag"), ("tag", .int index), ("variants", jsonRows form variants)]
  | .lift types newExtension =>
    [("op", .str "Lift"), ("type_row", jsonRow form types), ("new_extension", .str newExtension)]
  | .makeTuple types => [("op", .str "MakeTuple"), ("tys", jsonRow form types)]
  | .unpackTuple types => [("op", .str "UnpackTuple"), ("tys", jsonRow form types)]
  | .noop ty => [("op", .str "Noop"), ("ty", ty.toJson form)]
  | .extension owner name args =>
    [("op", .str "ExtensionOp"), ("extension", .str owner), ("name", .str name), ("args", jsonArgs form args)]

def toJson (form : Form) (op : OpDoc) : Json := form.record (op.fields form)

end OpDoc

def NodeDoc.toJson (form : Form) (node : NodeDoc) : Json :=
  form.record [("parent", jsonOption .int node.parent), ("op", node.op.toJson form),
    ("metadata", jsonOption Json.freeData node.metadata)]

def jsonPair (pair : Int × Int) : Json := .arr [.int pair.1, .int pair.2]

def EdgeDoc.toJson (form : Form) (edge : EdgeDoc) : Json :=
  form.record [("src", jsonPair edge.source), ("tgt", jsonPair edge.target), ("kind", .str edge.kind.text)]

def ProgramDoc.toJson (form : Form) (program : ProgramDoc) : Json :=
  form.record [("version", .str documentVersion), ("nodes", .arr (program.nodes.map (NodeDoc.toJson form))),
    ("edges", .arr (program.edges.map (EdgeDoc.toJson form)))]

def TypeDefDoc.toJson (form : Form) (definition : TypeDefDoc) : Json :=
  form.record [("name", .str definition.name), ("params", .arr (definition.params.map (Param.toJson form))),
    ("description", .str definition.description), ("bound", jsonOption Bound.toJson definition.bound),
    ("bound_from_params", jsonOption (fun positions => .arr (positions.map .int)) definition.boundFrom)]

def OpDefDoc.toJson (form : Form) (definition : OpDefDoc) : Json :=
  form.record [("name", .str definition.name), ("description", .str definition.description),
    ("misc", Json.freeData definition.misc), ("signature", jsonOption (SchemeDoc.toJson form) definition.signature)]

def NamedValueDoc.toJson (form : Form) (named : NamedValueDoc) : Json :=
  form.record [("name", .str named.name), ("value", named.value.toJson form), ("typ", named.typ.toJson form)]

def ExtensionDoc.toJson (form : Form) (extension : ExtensionDoc) : Json :=
  form.record [("name", .str extension.name), ("version", .str extension.version),
    ("description", .str extension.description), ("extension_reqs", jsonTexts extension.reqs),
    ("types", .arr (extension.types.map (TypeDefDoc.toJson form))),
    ("operations", .arr (extension.operations.map (OpDefDoc.toJson form))),
    ("values", .arr (extension.values.map (NamedValueDoc.toJson form)))]

end NestedFlow
