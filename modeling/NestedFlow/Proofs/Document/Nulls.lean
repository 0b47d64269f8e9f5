import NestedFlow.Proofs.Document.Reading
import NestedFlow.Proofs.Json.Nulls

/-! Documents without the null fields of free data.

The other parts of a document have no fields that are null, so that the data of a document loses what its free data
loses, and nothing else.
-/

set_option autoImplicit false

namespace NestedFlow

open Storage

/-! ### Data that nothing is left out of -/

theorem withoutNulls_record (fields : List (String × Json)) :
    withoutNulls (Form.compact.record fields) = Form.compact.record (fields.map (Prod.map id withoutNulls)) := by
  rw [Form.record, withoutNulls, Json.fieldsWithoutNulls_eq, List.filter_filter, Form.record, List.filter_map]
  simp only [Bool.and_self, Function.comp_def, Prod.map_snd, Json.keeps_withoutNulls]

@[simp] theorem withoutNulls_str (text : String) : withoutNulls (.str text) = .str text :=
  Json.withoutNulls_leaf (by simp) (by simp)

@[simp] theorem withoutNulls_int (value : Int) : withoutNulls (.int value) = .int value :=
  Json.withoutNulls_leaf (by simp) (by simp)

@[simp] theorem withoutNulls_null : withoutNulls .null = .null := Json.withoutNulls_leaf (by simp) (by simp)

@[simp] theorem withoutNulls_bound (bound : Bound) : withoutNulls bound.toJson = bound.toJson := withoutNulls_str _

theorem withoutNulls_list {α : Type} {write : α → Json} (kept : ∀ item, withoutNulls (write item) = write item)
    (items : List α) : withoutNulls (.arr (items.map write)) = .arr (items.map write) := by
  rw [withoutNulls, Json.itemsWithoutNulls_eq_map, List.map_map]
  exact congrArg Json.arr (List.map_congr_left fun item _ => kept item)

@[simp] theorem withoutNulls_texts (texts : List String) : withoutNulls (jsonTexts texts) = jsonTexts texts :=
  withoutNulls_list withoutNulls_str texts

@[simp] theorem withoutNulls_param : ∀ param : Param,
    withoutNulls (param.toJson .compact) = param.toJson .compact
  | .type _ | .string | .extensions => by simp [Param.toJson, withoutNulls_record]
  | .nat none | .nat (some _) => by simp [Param.toJson, withoutNulls_record, jsonOption]
  | .list elem => by simp [Param.toJson, withoutNulls_record, withoutNulls_param elem]

mutual

theorem withoutNulls_ty : ∀ ty : TyDoc, withoutNulls (ty.toJson .compact) = ty.toJson .compact
  | .custom _ _ args _ => by simp [TyDoc.toJson, withoutNulls_record, withoutNulls, itemsWithoutNulls_args args]
  | .sum variants => by simp [TyDoc.toJson, withoutNulls_record, withoutNulls, itemsWithoutNulls_rows variants]
  | .tuple row => by simp [TyDoc.toJson, withoutNulls_record, withoutNulls, itemsWithoutNulls_row row]
  | .function input output _ => by
    simp [TyDoc.toJson, withoutNulls_record, withoutNulls, itemsWithoutNulls_row input, itemsWithoutNulls_row output]
  | .var _ _ => by simp [TyDoc.toJson, withoutNulls_record]

theorem itemsWithoutNulls_row : ∀ row : List TyDoc,
    itemsWithoutNulls (TyDoc.rowToJson .compact row) = TyDoc.rowToJson .compact row
  | [] => by rw [TyDoc.rowToJson, itemsWithoutNulls]
  | ty :: rest => by rw [TyDoc.rowToJson, itemsWithoutNulls, withoutNulls_ty ty, itemsWithoutNulls_row rest]

theorem itemsWithoutNulls_rows : ∀ rows : List (List TyDoc),
    itemsWithoutNulls (TyDoc.rowsToJson .compact rows) = TyDoc.rowsToJson .compact rows
  | [] => by rw [TyDoc.rowsToJson, itemsWithoutNulls]
  | row :: rest => by
    rw [TyDoc.rowsToJson, itemsWithoutNulls, withoutNulls, itemsWithoutNulls_row row, itemsWithoutNulls_rows rest]

theorem withoutNulls_arg : ∀ arg : ArgDoc, withoutNulls (arg.toJson .compact) = arg.toJson .compact
  | .type ty => by simp [ArgDoc.toJson, withoutNulls_record, withoutNulls_ty ty]
  | .nat _ | .string _ | .extensions _ | .var _ _ => by simp [ArgDoc.toJson, withoutNulls_record]
  | .sequence elems => by simp [ArgDoc.toJson, withoutNulls_record, withoutNulls, itemsWithoutNulls_args elems]

theorem itemsWithoutNulls_args : ∀ args : List ArgDoc,
    itemsWithoutNulls (ArgDoc.allToJson .compact args) = ArgDoc.allToJson .compact args
  | [] => by rw [ArgDoc.allToJson, itemsWithoutNulls]
  | arg :: rest => by rw [ArgDoc.allToJson, itemsWithoutNulls, withoutNulls_arg arg, itemsWithoutNulls_args rest]

end

@[simp] theorem withoutNulls_jsonRow (row : List TyDoc) :
    withoutNulls (jsonRow .compact row) = jsonRow .compact row :=
  congrArg Json.arr (itemsWithoutNulls_row row)

@[simp] theorem withoutNulls_jsonRows (rows : List (List TyDoc)) :
    withoutNulls (jsonRows .compact rows) = jsonRows .compact rows :=
  congrArg Json.arr (itemsWithoutNulls_rows rows)

@[simp] theorem withoutNulls_jsonArgs (args : List ArgDoc) :
    withoutNulls (jsonArgs .compact args) = jsonArgs .compact args :=
  congrArg Json.arr (itemsWithoutNulls_args args)

@[simp] theorem withoutNulls_signature (signature : SignatureDoc) :
    withoutNulls (signature.toJson .compact) = signature.toJson .compact :=
  withoutNulls_ty signature.toTy

@[simp] theorem withoutNulls_scheme (scheme : SchemeDoc) :
    withoutNulls (scheme.toJson .compact) = scheme.toJson .compact := by
  simp [SchemeDoc.toJson, withoutNulls_record, withoutNulls_list withoutNulls_param]

theorem withoutNulls_declared (delta : Option (List String)) :
    withoutNulls (jsonOption jsonTexts delta) = jsonOption jsonTexts delta := by
  cases delta <;> simp [jsonOption]

/-! ### Values and operations -/

mutual

/-- The value whose data has lost the fields that are null. -/
def ValueDoc.withoutNulls : ValueDoc → ValueDoc
  | .sum tag values => .sum tag (ValueDoc.allWithoutNulls values)
  | .tuple values => .tuple (ValueDoc.allWithoutNulls values)
  | .extension typ payload => .extension typ (Storage.withoutNulls payload)

def ValueDoc.allWithoutNulls : List ValueDoc → List ValueDoc
  | [] => []
  | value :: rest => ValueDoc.withoutNulls value :: ValueDoc.allWithoutNulls rest

end

mutual

theorem ValueDoc.IsPortable.withoutNulls : ∀ {value : ValueDoc}, value.IsPortable → value.withoutNulls.IsPortable
  | .sum _ _, kept | .tuple _, kept => by
    rw [ValueDoc.IsPortable] at kept
    rw [ValueDoc.withoutNulls, ValueDoc.IsPortable]
    exact ValueDoc.arePortable_allWithoutNulls kept
  | .extension _ _, kept => by
    rw [ValueDoc.IsPortable] at kept
    rw [ValueDoc.withoutNulls, ValueDoc.IsPortable]
    exact Json.partwise_isPortable.withoutNulls kept

theorem ValueDoc.arePortable_allWithoutNulls : ∀ {values : List ValueDoc}, ValueDoc.ArePortable values →
    ValueDoc.ArePortable (ValueDoc.allWithoutNulls values)
  | [], kept => by rwa [ValueDoc.allWithoutNulls]
  | _ :: _, kept => by
    rw [ValueDoc.ArePortable] at kept
    rw [ValueDoc.allWithoutNulls, ValueDoc.ArePortable]
    exact ⟨kept.1.withoutNulls, ValueDoc.arePortable_allWithoutNulls kept.2⟩

end

mutual

theorem ValueDoc.nesting_withoutNulls_le : ∀ value : ValueDoc, value.withoutNulls.nesting ≤ value.nesting
  | .sum _ values | .tuple values => by
    rw [ValueDoc.withoutNulls, ValueDoc.nesting, ValueDoc.nesting]
    exact Nat.succ_le_succ (ValueDoc.nestingOfAll_withoutNulls_le values)
  | .extension typ payload => by
    have inner := Json.depth_withoutNulls_le payload
    rw [ValueDoc.withoutNulls, ValueDoc.nesting, ValueDoc.nesting]
    omega

theorem ValueDoc.nestingOfAll_withoutNulls_le : ∀ values : List ValueDoc,
    ValueDoc.nestingOfAll (ValueDoc.allWithoutNulls values) ≤ ValueDoc.nestingOfAll values
  | [] => Nat.le_refl _
  | value :: rest => by
    have first := ValueDoc.nesting_withoutNulls_le value
    have others := ValueDoc.nestingOfAll_withoutNulls_le rest
    rw [ValueDoc.allWithoutNulls, ValueDoc.nestingOfAll, ValueDoc.nestingOfAll]
    omega

end

/-- Portable data of a value is written as it is, and is left out if it is null. -/
theorem ValueDoc.toJson_extension (typ : TyDoc) {payload : Json} (kept : payload.IsPortable) :
    (ValueDoc.extension typ payload).toJson .compact =
      Form.compact.record [("v", .str "Extension"), ("typ", typ.toJson .compact), ("value", payload)] := by
  rw [ValueDoc.toJson, Json.portable_eq kept, Form.record]
  cases given : Form.compact.keeps payload <;> simp [List.filter_cons, given]

mutual

theorem ValueDoc.withoutNulls_toJson : ∀ {value : ValueDoc}, value.IsPortable →
    Storage.withoutNulls (value.toJson .compact) = value.withoutNulls.toJson .compact
  | .sum _ _, kept | .tuple _, kept => by
    rw [ValueDoc.IsPortable] at kept
    rw [ValueDoc.withoutNulls, ValueDoc.toJson, ValueDoc.toJson, withoutNulls_record]
    simp [Storage.withoutNulls, ValueDoc.itemsWithoutNulls_allToJson kept]
  | .extension typ payload, kept => by
    have kept' := kept.withoutNulls
    rw [ValueDoc.withoutNulls] at kept'
    rw [ValueDoc.IsPortable] at kept kept'
    rw [ValueDoc.withoutNulls, ValueDoc.toJson_extension typ kept, ValueDoc.toJson_extension typ kept',
      withoutNulls_record]
    simp [withoutNulls_ty typ]

theorem ValueDoc.itemsWithoutNulls_allToJson : ∀ {values : List ValueDoc}, ValueDoc.ArePortable values →
    itemsWithoutNulls (ValueDoc.allToJson .compact values) =
      ValueDoc.allToJson .compact (ValueDoc.allWithoutNulls values)
  | [], _ => by rw [ValueDoc.allToJson, ValueDoc.allWithoutNulls, ValueDoc.allToJson, itemsWithoutNulls]
  | _ :: _, kept => by
    rw [ValueDoc.ArePortable] at kept
    rw [ValueDoc.allToJson, ValueDoc.allWithoutNulls, ValueDoc.allToJson, itemsWithoutNulls,
      ValueDoc.withoutNulls_toJson kept.1, ValueDoc.itemsWithoutNulls_allToJson kept.2]

end

namespace OpDoc

/-- The operation whose constant has lost the fields that are null. -/
def withoutNulls : OpDoc → OpDoc
  | .const value typ => .const value.withoutNulls typ
  | op => op

theorem nesting_withoutNulls_le (op : OpDoc) : op.withoutNulls.nesting ≤ op.nesting := by
  cases op with
  | const value typ =>
    have inner := value.nesting_withoutNulls_le
    simp only [withoutNulls, nesting]
    omega
  | _ => exact Nat.le_refl _

theorem IsPortable.withoutNulls {op : OpDoc} (kept : op.IsPortable) : op.withoutNulls.IsPortable := by
  cases op with
  | const value typ => exact ValueDoc.IsPortable.withoutNulls kept
  | _ => exact trivial

theorem withoutNulls_toJson {op : OpDoc} (kept : op.IsPortable) :
    Storage.withoutNulls (op.toJson .compact) = op.withoutNulls.toJson .compact := by
  rw [toJson, toJson, withoutNulls_record]
  cases op with
  | const value typ =>
    have constant := ValueDoc.withoutNulls_toJson kept
    simp [fields, withoutNulls, constant, withoutNulls_ty typ]
  | loadConstant ty | noop ty => simp [fields, withoutNulls, withoutNulls_ty ty]
  | dfg _ _ delta | branch _ _ delta | cfg _ _ delta | conditional _ _ _ delta | tailLoop _ _ _ delta
  | block _ _ _ delta => simp [fields, withoutNulls, withoutNulls_declared delta]
  | _ => simp [fields, withoutNulls]

end OpDoc

/-! ### Nodes and programs -/

/-- The part for a node whose data has lost the fields that are null. -/
def NodeDoc.withoutNulls (node : NodeDoc) : NodeDoc :=
  { node with op := node.op.withoutNulls, metadata := node.metadata.map fieldsWithoutNulls }

/-- The part for a node as it is written anew: metadata without fields is left out. -/
def NodeDoc.tidied (node : NodeDoc) : NodeDoc :=
  { node with metadata := node.metadata.filter fun fields => !fields.isEmpty }

namespace ProgramDoc

def withoutNulls (program : ProgramDoc) : ProgramDoc := { program with nodes := program.nodes.map NodeDoc.withoutNulls }

def tidied (program : ProgramDoc) : ProgramDoc := { program with nodes := program.nodes.map NodeDoc.tidied }

end ProgramDoc

theorem NodeDoc.withoutNulls_toJson {node : NodeDoc} (kept : node.op.IsPortable) :
    Storage.withoutNulls (node.toJson .compact) = node.written.withoutNulls.toJson .compact := by
  obtain ⟨parent, op, metadata⟩ := node
  rw [NodeDoc.toJson, withoutNulls_record, NodeDoc.written, NodeDoc.withoutNulls, NodeDoc.toJson]
  have parents : Storage.withoutNulls (jsonOption .int parent) = jsonOption .int parent := by
    cases parent <;> simp [jsonOption]
  have data : Storage.withoutNulls (jsonOption Json.freeData metadata) =
      jsonOption Json.freeData ((metadata.map Json.freeFields).map fieldsWithoutNulls) := by
    cases metadata with
    | none => exact withoutNulls_null
    | some fields =>
      have left := (Json.areFree_freeFields fields).withoutNulls
      simp only [jsonOption, Option.map_some, Json.freeData_eq, Storage.withoutNulls, left.freeFields_eq]
  simp [parents, data, OpDoc.withoutNulls_toJson kept]

theorem ProgramDoc.withoutNulls_toJson {program : ProgramDoc} (kept : ∀ node ∈ program.nodes, node.op.IsPortable) :
    Storage.withoutNulls (program.toJson .compact) = program.written.withoutNulls.toJson .compact := by
  have nodes : Storage.withoutNulls (.arr (program.nodes.map (NodeDoc.toJson .compact))) =
      .arr (program.written.withoutNulls.nodes.map (NodeDoc.toJson .compact)) := by
    rw [Storage.withoutNulls, Json.itemsWithoutNulls_eq_map, List.map_map, ProgramDoc.withoutNulls, ProgramDoc.written,
      List.map_map, List.map_map]
    exact congrArg Json.arr (List.map_congr_left fun node mem => NodeDoc.withoutNulls_toJson (kept node mem))
  have edges := @withoutNulls_list _ (EdgeDoc.toJson .compact)
    (fun edge => by simp [EdgeDoc.toJson, withoutNulls_record, jsonPair, Storage.withoutNulls, itemsWithoutNulls])
    program.edges
  rw [ProgramDoc.toJson, withoutNulls_record, ProgramDoc.toJson]
  simp only [List.map_cons, List.map_nil, Prod.map_apply, id_eq, withoutNulls_str, nodes, edges]
  rfl

/-! ### Metadata that stands in a document -/

/-- The metadata of the part is written as it is. -/
def NodeDoc.IsFree (node : NodeDoc) : Prop := ∀ fields, node.metadata = some fields → Json.AreFree fields

namespace NodeDoc

variable {node : NodeDoc}

theorem isFree_written (node : NodeDoc) : node.written.IsFree := by
  intro fields same
  obtain ⟨others, -, rfl⟩ := Option.map_eq_some_iff.1 same
  exact Json.areFree_freeFields others

theorem IsFree.written_eq (free : node.IsFree) : node.written = node := by
  obtain ⟨parent, op, metadata⟩ := node
  cases metadata with
  | none => rfl
  | some fields => rw [written, Option.map_some, (free fields rfl).freeFields_eq]

theorem IsFree.withoutNulls (free : node.IsFree) : node.withoutNulls.IsFree := by
  intro fields same
  obtain ⟨others, given, rfl⟩ := Option.map_eq_some_iff.1 same
  exact (free others given).withoutNulls

theorem IsFree.tidied (free : node.IsFree) : node.tidied.IsFree :=
  fun fields same => free fields (Option.filter_eq_some_iff.1 same).1

theorem nesting_written_le (node : NodeDoc) : node.written.nesting ≤ node.nesting := by
  obtain ⟨parent, op, metadata⟩ := node
  cases metadata with
  | none => exact Nat.le_refl _
  | some fields =>
    have inner := Json.depthOfFields_freeFields_le fields
    simp only [nesting, written, Option.map_some, Option.getD_some]
    omega

theorem nesting_withoutNulls_le (node : NodeDoc) : node.withoutNulls.nesting ≤ node.nesting := by
  obtain ⟨parent, op, metadata⟩ := node
  have first := op.nesting_withoutNulls_le
  cases metadata with
  | none =>
    simp only [nesting, withoutNulls, Option.map_none, Option.getD_none]
    omega
  | some fields =>
    have inner := Json.depthOfFields_fieldsWithoutNulls_le fields
    simp only [nesting, withoutNulls, Option.map_some, Option.getD_some]
    omega

theorem nesting_tidied (node : NodeDoc) : node.tidied.nesting = node.nesting := by
  obtain ⟨parent, op, metadata⟩ := node
  cases metadata with
  | none => rfl
  | some fields => cases fields <;> rfl

/-- Metadata that is not empty is not lost where it is written. -/
theorem freeData_tidied (present : node.metadata ≠ some []) :
    jsonOption Json.freeData node.written.tidied.metadata = jsonOption Json.freeData node.metadata := by
  obtain ⟨parent, op, metadata⟩ := node
  cases metadata with
  | none => rfl
  | some fields =>
    have nonempty : Json.freeFields fields ≠ [] := fun none => present (by rw [Json.freeFields_eq_nil_iff.1 none])
    have kept : (!(Json.freeFields fields).isEmpty) = true := by simp [nonempty]
    simp only [tidied, written, Option.map_some, Option.filter_some, kept, if_true, jsonOption, Json.freeData_eq,
      (Json.areFree_freeFields fields).freeFields_eq]

end NodeDoc

/-! ### Changes of all nodes -/

namespace ProgramDoc

variable {program : ProgramDoc} {change : NodeDoc → NodeDoc}

theorem nesting_map_le {bound : Nat} (each : ∀ node ∈ program.nodes, (change node).nesting ≤ node.nesting)
    (within : program.nesting ≤ bound) :
    ProgramDoc.nesting { program with nodes := program.nodes.map change } ≤ bound := by
  rw [nesting, deepest_le_iff, List.forall_mem_map] at within ⊢
  rw [List.forall_mem_map]
  exact fun node mem => Nat.le_trans (each node mem) (within node mem)

/-- What holds of a document part by part holds with other nodes of which it holds. -/
theorem good_map {admits : String → Bool → Prop} {good : Json → Prop} (partwise : Json.Partwise admits good)
    (each : ∀ node ∈ program.nodes, good (node.toJson .compact) → good ((change node).toJson .compact))
    (held : good (program.toJson .compact)) :
    good (ProgramDoc.toJson .compact { program with nodes := program.nodes.map change }) := by
  rw [toJson, partwise.record_cons, partwise.record_cons] at held ⊢
  obtain ⟨version, nodes, edges⟩ := held
  refine ⟨version, fun kept => ?_, edges⟩
  obtain ⟨admitted, items⟩ := nodes rfl
  rw [partwise.arr, List.forall_mem_map] at items ⊢
  rw [List.forall_mem_map]
  exact ⟨admitted, fun node mem => each node mem (items node mem)⟩

end ProgramDoc

theorem NodeDoc.good_tidied {admits : String → Bool → Prop} {good : Json → Prop} (partwise : Json.Partwise admits good)
    {node : NodeDoc} (held : good (node.toJson .compact)) : good (node.tidied.toJson .compact) := by
  obtain ⟨parent, op, metadata⟩ := node
  rw [NodeDoc.toJson, partwise.record_cons, partwise.record_cons, partwise.record_cons] at held ⊢
  obtain ⟨first, second, third, none⟩ := held
  refine ⟨first, second, fun kept => ?_, none⟩
  cases metadata with
  | none => exact third kept
  | some fields =>
    cases fields with
    | nil => cases kept
    | cons => exact third kept

end NestedFlow
