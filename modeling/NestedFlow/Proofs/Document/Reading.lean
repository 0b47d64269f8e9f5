import NestedFlow.Document.Nesting
import NestedFlow.Document.Reader
import NestedFlow.Document.Writer
import NestedFlow.Proofs.Json

/-! Documents are read back from the data that is written for them, if they are not nested too deeply. -/

set_option autoImplicit false

namespace NestedFlow

open Schema

/-! ### Nesting -/

theorem foldl_max_le_iff {levels : List Nat} {start bound : Nat} :
    levels.foldl max start ≤ bound ↔ start ≤ bound ∧ ∀ level ∈ levels, level ≤ bound := by
  induction levels generalizing start with
  | nil => simp
  | cons level rest ih => rw [List.foldl_cons, ih, Nat.max_le, List.forall_mem_cons, and_assoc]

theorem deepest_le_iff {levels : List Nat} {bound : Nat} : deepest levels ≤ bound ↔ ∀ level ∈ levels, level ≤ bound := by
  rw [deepest, foldl_max_le_iff]
  exact and_iff_right (Nat.zero_le bound)

/-- In a whole document every part takes one level. -/
@[simp] theorem levelsAt_document (rank : Nat) : levelsAt rank Rank.document = 1 := rfl

@[simp] theorem min_document (rank : Nat) : min rank Rank.document = Rank.document := Nat.min_zero rank

/-! ### Single parts -/

theorem list?_map_of {α β : Type} {write : α → Json} {read? : Json → Option β} {found : α → β} {items : List α}
    (back : ∀ item ∈ items, read? (write item) = some (found item)) :
    list? read? (.arr (items.map write)) = some (items.map found) := by
  rw [list?]
  induction items with
  | nil => rfl
  | cons item rest ih =>
    rw [List.map_cons, List.mapM_cons, back item List.mem_cons_self,
      ih fun other mem => back other (List.mem_cons_of_mem item mem)]
    rfl

theorem list?_map {α : Type} {write : α → Json} {read? : Json → Option α} {items : List α}
    (back : ∀ item ∈ items, read? (write item) = some item) : list? read? (.arr (items.map write)) = some items := by
  rw [@list?_map_of _ _ _ _ id _ back, List.map_id]

theorem texts?_jsonTexts (texts : List String) : texts? (jsonTexts texts) = some texts :=
  list?_map fun _ _ => rfl

theorem Bound.ofJson?_toJson (bound : Bound) : Bound.ofJson? bound.toJson = some bound := by
  cases bound <;> rfl

theorem EdgeKind.ofJson?_text (kind : EdgeKind) : EdgeKind.ofJson? (.str kind.text) = some kind := by
  cases kind <;> rfl

/-! ### Parameters, types and arguments -/

namespace Form

variable (form : Form)

@[simp] theorem keeps_null : Form.compact.keeps .null = false := rfl

@[simp] theorem keeps_str (text : String) : form.keeps (.str text) = true := rfl

@[simp] theorem keeps_int (value : Int) : form.keeps (.int value) = true := rfl

@[simp] theorem keeps_arr (items : List Json) : form.keeps (.arr items) = true := rfl

@[simp] theorem keeps_record (fields : List (String × Json)) : form.keeps (form.record fields) = true := rfl

@[simp] theorem keeps_bound (bound : Bound) : form.keeps bound.toJson = true := rfl

@[simp] theorem keeps_texts (texts : List String) : form.keeps (jsonTexts texts) = true := rfl

@[simp] theorem keeps_param (param : Param) : form.keeps (param.toJson form) = true := by cases param <;> rfl

@[simp] theorem keeps_ty (ty : TyDoc) : form.keeps (ty.toJson form) = true := by
  cases ty <;> rw [TyDoc.toJson, keeps_record]

@[simp] theorem keeps_signature (signature : SignatureDoc) : form.keeps (signature.toJson form) = true :=
  form.keeps_ty signature.toTy

@[simp] theorem keeps_scheme (scheme : SchemeDoc) : form.keeps (scheme.toJson form) = true := rfl

@[simp] theorem keeps_value (value : ValueDoc) : form.keeps (value.toJson form) = true := by
  cases value <;> rw [ValueDoc.toJson] <;> rfl

@[simp] theorem keeps_rows (rows : List (List TyDoc)) : form.keeps (jsonRows form rows) = true := rfl

@[simp] theorem keeps_row (row : List TyDoc) : form.keeps (jsonRow form row) = true := rfl

@[simp] theorem keeps_args (args : List ArgDoc) : form.keeps (jsonArgs form args) = true := rfl

end Form

theorem Param.read?_toJson : ∀ {param : Param} {depth : Nat}, param.nesting Rank.document ≤ depth →
    Param.read? depth (param.toJson .compact) = some param
  | .type _, 0, within | .nat _, 0, within | .string, 0, within | .extensions, 0, within | .list _, 0, within => by
    simp [Param.nesting] at within
  | .type bound, _ + 1, _ => by
    simp [Param.read?, Param.toJson, Form.record, List.filter_cons, tag?, Json.get?, Json.field?, text?, record?, optional?,
      Bound.ofJson?_toJson]
  | .nat none, _ + 1, _ => by
    simp [Param.read?, Param.toJson, Form.record, Form.keeps, tag?, Json.get?, Json.field?, text?, record?, optional?,
      jsonOption]
  | .nat (some _), _ + 1, _ => by
    simp [Param.read?, Param.toJson, Form.record, List.filter_cons, tag?, Json.get?, Json.field?, text?, record?, optional?,
      jsonOption, nullable?, int?]
  | .string, _ + 1, _ | .extensions, _ + 1, _ => by
    simp [Param.read?, Param.toJson, Form.record, List.filter_cons, tag?, Json.get?, Json.field?, text?, record?]
  | .list elem, depth + 1, within => by
    have inner : elem.nesting Rank.document ≤ depth := by simpa [Param.nesting] using within
    simp [Param.read?, Param.toJson, Form.record, List.filter_cons, tag?, Json.get?, Json.field?, text?, record?, required?,
      Param.read?_toJson inner]

mutual

theorem TyDoc.read?_toJson : ∀ {ty : TyDoc} {depth : Nat}, ty.nesting Rank.document ≤ depth →
    TyDoc.read? depth (ty.toJson .compact) = some ty
  | .custom _ _ _ _, 0, within | .sum _, 0, within | .tuple _, 0, within | .function _ _ _, 0, within
  | .var _ _, 0, within => by simp [TyDoc.nesting] at within
  | .custom extension id args bound, depth + 1, within => by
    have inner : ArgDoc.nestingOfAll Rank.document args ≤ depth := by simpa [TyDoc.nesting] using within
    simp [TyDoc.read?, TyDoc.toJson, Form.record, List.filter_cons, tag?, Json.get?, Json.field?, text?, record?, required?, optional?,
      list?, ArgDoc.readAll_toJson inner, Bound.ofJson?_toJson]
  | .sum variants, depth + 1, within => by
    have inner : TyDoc.nestingOfRows Rank.document variants ≤ depth := by simpa [TyDoc.nesting] using within
    have rows := TyDoc.readRows_toJson inner
    simp [TyDoc.read?, TyDoc.toJson, Form.record, List.filter_cons, tag?, Json.get?, Json.field?, text?, record?, optional?, rows]
  | .tuple row, depth + 1, within => by
    have inner : TyDoc.nestingOfRow Rank.document row ≤ depth := by simpa [TyDoc.nesting] using within
    simp [TyDoc.read?, TyDoc.toJson, Form.record, List.filter_cons, tag?, Json.get?, Json.field?, text?, record?, optional?, list?,
      TyDoc.readRow_toJson inner]
  | .function input output reqs, depth + 1, within => by
    have inner : TyDoc.nestingOfRow Rank.document input ≤ depth ∧ TyDoc.nestingOfRow Rank.document output ≤ depth := by
      simpa [TyDoc.nesting, Nat.max_le] using within
    simp [TyDoc.read?, TyDoc.toJson, Form.record, List.filter_cons, tag?, Json.get?, Json.field?, text?, record?, optional?, list?,
      TyDoc.readRow_toJson inner.1, TyDoc.readRow_toJson inner.2, texts?_jsonTexts]
  | .var index bound, depth + 1, _ => by
    simp [TyDoc.read?, TyDoc.toJson, Form.record, List.filter_cons, tag?, Json.get?, Json.field?, text?, record?, required?, optional?,
      int?, Bound.ofJson?_toJson]

theorem TyDoc.readRow_toJson : ∀ {row : List TyDoc} {depth : Nat}, TyDoc.nestingOfRow Rank.document row ≤ depth →
    (TyDoc.rowToJson .compact row).mapM (TyDoc.read? depth) = some row
  | [], _, _ => by rw [TyDoc.rowToJson]; rfl
  | ty :: rest, depth, within => by
    rw [TyDoc.nestingOfRow, Nat.max_le] at within
    rw [TyDoc.rowToJson, List.mapM_cons, TyDoc.read?_toJson within.1, TyDoc.readRow_toJson within.2]
    rfl

theorem TyDoc.readRows_toJson : ∀ {rows : List (List TyDoc)} {depth : Nat},
    TyDoc.nestingOfRows Rank.document rows ≤ depth →
    list? (list? (TyDoc.read? depth)) (.arr (TyDoc.rowsToJson .compact rows)) = some rows
  | [], _, _ => by rw [TyDoc.rowsToJson]; rfl
  | row :: rest, depth, within => by
    rw [TyDoc.nestingOfRows, Nat.max_le] at within
    have others := TyDoc.readRows_toJson within.2
    rw [list?] at others
    rw [TyDoc.rowsToJson, list?, List.mapM_cons, list?, TyDoc.readRow_toJson within.1, others]
    rfl

theorem ArgDoc.read?_toJson : ∀ {arg : ArgDoc} {depth : Nat}, arg.nesting Rank.document ≤ depth →
    ArgDoc.read? depth (arg.toJson .compact) = some arg
  | .type _, 0, within | .nat _, 0, within | .string _, 0, within | .extensions _, 0, within
  | .sequence _, 0, within | .var _ _, 0, within => by simp [ArgDoc.nesting] at within
  | .type ty, depth + 1, within => by
    have inner : ty.nesting Rank.document ≤ depth := by simpa [ArgDoc.nesting] using within
    simp [ArgDoc.read?, ArgDoc.toJson, Form.record, List.filter_cons, tag?, Json.get?, Json.field?, text?, record?, required?,
      TyDoc.read?_toJson inner]
  | .nat value, depth + 1, _ => by
    simp [ArgDoc.read?, ArgDoc.toJson, Form.record, List.filter_cons, tag?, Json.get?, Json.field?, text?, record?, required?, int?]
  | .string value, depth + 1, _ => by
    simp [ArgDoc.read?, ArgDoc.toJson, Form.record, List.filter_cons, tag?, Json.get?, Json.field?, text?, record?, required?]
  | .extensions entries, depth + 1, _ => by
    simp [ArgDoc.read?, ArgDoc.toJson, Form.record, List.filter_cons, tag?, Json.get?, Json.field?, text?, record?, optional?,
      texts?_jsonTexts]
  | .sequence elems, depth + 1, within => by
    have inner : ArgDoc.nestingOfAll Rank.document elems ≤ depth := by simpa [ArgDoc.nesting] using within
    simp [ArgDoc.read?, ArgDoc.toJson, Form.record, List.filter_cons, tag?, Json.get?, Json.field?, text?, record?, optional?, list?,
      ArgDoc.readAll_toJson inner]
  | .var index param, depth + 1, within => by
    have inner : param.nesting Rank.document ≤ depth := by simpa [ArgDoc.nesting] using within
    simp [ArgDoc.read?, ArgDoc.toJson, Form.record, List.filter_cons, tag?, Json.get?, Json.field?, text?, record?, required?, int?,
      Param.read?_toJson inner]

theorem ArgDoc.readAll_toJson : ∀ {args : List ArgDoc} {depth : Nat}, ArgDoc.nestingOfAll Rank.document args ≤ depth →
    (ArgDoc.allToJson .compact args).mapM (ArgDoc.read? depth) = some args
  | [], _, _ => by rw [ArgDoc.allToJson]; rfl
  | arg :: rest, depth, within => by
    rw [ArgDoc.nestingOfAll, Nat.max_le] at within
    rw [ArgDoc.allToJson, List.mapM_cons, ArgDoc.read?_toJson within.1, ArgDoc.readAll_toJson within.2]
    rfl

end

theorem rowOfJson?_jsonRow {row : List TyDoc} (within : TyDoc.nestingOfRow Rank.document row ≤ maxNesting) :
    rowOfJson? (jsonRow .compact row) = some row :=
  TyDoc.readRow_toJson within

theorem rowsOfJson?_jsonRows {rows : List (List TyDoc)}
    (within : TyDoc.nestingOfRows Rank.document rows ≤ maxNesting) :
    rowsOfJson? (jsonRows .compact rows) = some rows :=
  TyDoc.readRows_toJson within

theorem argsOfJson?_jsonArgs {args : List ArgDoc} (within : ArgDoc.nestingOfAll Rank.document args ≤ maxNesting) :
    list? ArgDoc.ofJson? (jsonArgs .compact args) = some args :=
  ArgDoc.readAll_toJson within

theorem TyDoc.ofJson?_toJson {ty : TyDoc} (within : ty.nesting Rank.document ≤ maxNesting) :
    TyDoc.ofJson? (ty.toJson .compact) = some ty :=
  TyDoc.read?_toJson within

/-- The rows of a signature lie one level below it. -/
theorem SignatureDoc.ofJson?_toJson {signature : SignatureDoc} (within : signature.nesting ≤ maxNesting) :
    SignatureDoc.ofJson? (signature.toJson .compact) = some signature := by
  have inner : TyDoc.nestingOfRow Rank.document signature.input ≤ maxNesting - 1 ∧
      TyDoc.nestingOfRow Rank.document signature.output ≤ maxNesting - 1 := by
    simp only [SignatureDoc.nesting, SignatureDoc.toTy, TyDoc.nesting, min_document, levelsAt_document] at within
    omega
  simp [SignatureDoc.ofJson?, SignatureDoc.toJson, SignatureDoc.toTy, TyDoc.toJson, Form.record, List.filter_cons,
    Json.field?, text?, record?, optional?, literal?, list?, TyDoc.readRow_toJson inner.1,
    TyDoc.readRow_toJson inner.2, texts?_jsonTexts]

theorem SchemeDoc.ofJson?_toJson {scheme : SchemeDoc} (within : scheme.nesting ≤ maxNesting) :
    SchemeDoc.ofJson? (scheme.toJson .compact) = some scheme := by
  rw [SchemeDoc.nesting, Nat.max_le, deepest_le_iff] at within
  have params : list? Param.ofJson? (.arr (scheme.params.map (Param.toJson .compact))) = some scheme.params :=
    list?_map fun param mem => Param.read?_toJson (within.1 _ (List.mem_map_of_mem mem))
  simp [SchemeDoc.ofJson?, SchemeDoc.toJson, Form.record, List.filter_cons, Json.field?, record?, required?,
    optional?, params, SignatureDoc.ofJson?_toJson within.2]

/-! ### Values -/

mutual

/-- The data of all values is portable. -/
def ValueDoc.IsPortable : ValueDoc → Prop
  | .sum _ values => ValueDoc.ArePortable values
  | .tuple values => ValueDoc.ArePortable values
  | .extension _ payload => payload.IsPortable

def ValueDoc.ArePortable : List ValueDoc → Prop
  | [] => True
  | value :: rest => ValueDoc.IsPortable value ∧ ValueDoc.ArePortable rest

end

mutual

theorem ValueDoc.read?_toJson : ∀ {value : ValueDoc} {depth : Nat}, value.nesting ≤ depth → value.IsPortable →
    ValueDoc.read? depth (value.toJson .compact) = some value
  | .sum _ _, 0, within, _ | .tuple _, 0, within, _ | .extension _ _, 0, within, _ => by
    simp [ValueDoc.nesting] at within
  | .sum tag values, depth + 1, within, kept => by
    have inner : ValueDoc.nestingOfAll values ≤ depth := by simpa [ValueDoc.nesting] using within
    rw [ValueDoc.IsPortable] at kept
    simp [ValueDoc.read?, ValueDoc.toJson, Form.record, List.filter_cons, tag?, Json.get?, Json.field?, text?, record?,
      required?, optional?, int?, list?, ValueDoc.readAll_toJson inner kept]
  | .tuple values, depth + 1, within, kept => by
    have inner : ValueDoc.nestingOfAll values ≤ depth := by simpa [ValueDoc.nesting] using within
    rw [ValueDoc.IsPortable] at kept
    simp [ValueDoc.read?, ValueDoc.toJson, Form.record, List.filter_cons, tag?, Json.get?, Json.field?, text?, record?,
      optional?, list?, ValueDoc.readAll_toJson inner kept]
  | .extension typ payload, depth + 1, within, kept => by
    have inner : typ.nesting Rank.document ≤ depth := by
      simp only [ValueDoc.nesting] at within
      omega
    rw [ValueDoc.IsPortable] at kept
    -- a payload that is null is left out, and what is left out is null
    cases payload <;>
      simp [ValueDoc.read?, ValueDoc.toJson, Form.keeps, tag?, Json.get?, Json.field?, text?, record?, required?,
        optional?, TyDoc.read?_toJson inner, Json.portable_eq kept]

theorem ValueDoc.readAll_toJson : ∀ {values : List ValueDoc} {depth : Nat}, ValueDoc.nestingOfAll values ≤ depth →
    ValueDoc.ArePortable values → (ValueDoc.allToJson .compact values).mapM (ValueDoc.read? depth) = some values
  | [], _, _, _ => by rw [ValueDoc.allToJson]; rfl
  | value :: rest, depth, within, kept => by
    rw [ValueDoc.nestingOfAll, Nat.max_le] at within
    rw [ValueDoc.ArePortable] at kept
    rw [ValueDoc.allToJson, List.mapM_cons, ValueDoc.read?_toJson within.1 kept.1,
      ValueDoc.readAll_toJson within.2 kept.2]
    rfl

end

/-! ### Operations -/

namespace OpDoc

/-- The data of a constant is portable. -/
def IsPortable : OpDoc → Prop
  | .const value _ => value.IsPortable
  | _ => True

/-- The requirements of a region that declares some. -/
theorem declaredOfJson? (texts : List String) : nullable? texts? (jsonTexts texts) = some (some texts) := by
  rw [jsonTexts, nullable?, ← jsonTexts, texts?_jsonTexts, Option.map_some]
  intro isNull
  cases isNull

/-- The operation of a record is found by the tag that stands first. -/
theorem tag?_record (form : Form) (name text : String) (fields : List (String × Json)) :
    tag? name (form.record ((name, .str text) :: fields)) = some text := by
  simp [tag?, Form.record, List.filter_cons, Json.get?, Json.field?, text?]

theorem rowField?_record {tag name : String} {row : List TyDoc} (apart : name ≠ "op")
    (within : TyDoc.nestingOfRow Rank.document row ≤ maxNesting) :
    rowField? name (Form.compact.record [("op", .str tag), (name, jsonRow .compact row)]) = some row := by
  simp [rowField?, Form.record, List.filter_cons, Json.field?, record?, optional?, apart.symm,
    rowOfJson?_jsonRow within]

theorem regionOfJson?_record {tag : String} {inputs outputs : List TyDoc} {delta : Option (List String)}
    (within : TyDoc.nestingOfRows Rank.document [inputs, outputs] ≤ maxNesting) :
    regionOfJson? (Form.compact.record [("op", .str tag), ("inputs", jsonRow .compact inputs),
      ("outputs", jsonRow .compact outputs), ("delta", jsonOption jsonTexts delta)]) =
        some (inputs, outputs, delta) := by
  simp only [TyDoc.nestingOfRows, Nat.max_le] at within
  cases delta <;>
    simp [regionOfJson?, Form.record, List.filter_cons, Json.field?, record?, optional?, jsonOption,
      rowOfJson?_jsonRow within.1, rowOfJson?_jsonRow within.2.1, declaredOfJson?]

theorem functionOfJson?_record {tag name : String} {signature : SchemeDoc} (within : signature.nesting ≤ maxNesting) :
    functionOfJson? (Form.compact.record [("op", .str tag), ("name", .str name),
      ("signature", signature.toJson .compact)]) = some (name, signature) := by
  simp [functionOfJson?, Form.record, List.filter_cons, Json.field?, text?, record?, required?,
    SchemeDoc.ofJson?_toJson within]

theorem useOfJson?_record {tag signatureName : String} {function : SchemeDoc} {args : List ArgDoc}
    {signature : SignatureDoc} (apart : signatureName ∉ ["op", "func_sig", "type_args"])
    (within : deepest [function.nesting, ArgDoc.nestingOfAll Rank.document args, signature.nesting] ≤ maxNesting) :
    useOfJson? signatureName (Form.compact.record [("op", .str tag), ("func_sig", function.toJson .compact),
      ("type_args", jsonArgs .compact args), (signatureName, signature.toJson .compact)]) =
        some (function, args, signature) := by
  simp only [deepest_le_iff, List.forall_mem_cons] at within
  simp only [List.mem_cons, not_or] at apart
  simp [useOfJson?, Form.record, List.filter_cons, Json.field?, record?, required?, optional?, Ne.symm apart.1,
    Ne.symm apart.2.1, Ne.symm apart.2.2.1, SchemeDoc.ofJson?_toJson within.1, argsOfJson?_jsonArgs within.2.1,
    SignatureDoc.ofJson?_toJson within.2.2.1]

theorem ofJson?_toJson {op : OpDoc} (within : op.nesting ≤ maxNesting) (kept : op.IsPortable) :
    ofJson? (op.toJson .compact) = some op := by
  rw [ofJson?, toJson]
  -- the tag chooses the reader, which asks for the fields that stand behind the tag
  cases op with
  | moduleRoot => rfl
  | funcDefn name signature | funcDecl name signature =>
    rw [fields, tag?_record, Option.bind_eq_bind, Option.bind_some]
    dsimp only
    simp [functionOfJson?_record within]
  | input types | output types | exit types | makeTuple types | unpackTuple types =>
    rw [fields, tag?_record, Option.bind_eq_bind, Option.bind_some]
    dsimp only
    simp [rowField?_record _ within]
  | dfg inputs outputs delta | branch inputs outputs delta | cfg inputs outputs delta =>
    rw [fields, tag?_record, Option.bind_eq_bind, Option.bind_some]
    dsimp only
    simp [regionOfJson?_record within]
  | call function args signature | loadFunction function args signature =>
    rw [fields, tag?_record, Option.bind_eq_bind, Option.bind_some]
    dsimp only
    simp [useOfJson?_record _ within]
  | const value typ =>
    rw [OpDoc.nesting, Nat.max_le] at within
    rw [fields, tag?_record, Option.bind_eq_bind, Option.bind_some]
    dsimp only
    simp [Form.record, List.filter_cons, Json.field?, record?, required?, ValueDoc.ofJson?,
      ValueDoc.read?_toJson within.1 kept, TyDoc.ofJson?_toJson within.2]
  | conditional sumRows otherInputs outputs delta =>
    simp only [OpDoc.nesting, TyDoc.nestingOfRows, Nat.max_le] at within
    rw [fields, tag?_record, Option.bind_eq_bind, Option.bind_some]
    dsimp only
    cases delta <;>
      simp [Form.record, List.filter_cons, Json.field?, record?, optional?, jsonOption, rowOfJson?_jsonRow within.1,
        rowOfJson?_jsonRow within.2.1, rowsOfJson?_jsonRows within.2.2, declaredOfJson?]
  | tailLoop justInputs justOutputs rest delta =>
    simp only [OpDoc.nesting, TyDoc.nestingOfRows, Nat.max_le] at within
    rw [fields, tag?_record, Option.bind_eq_bind, Option.bind_some]
    dsimp only
    cases delta <;>
      simp [Form.record, List.filter_cons, Json.field?, record?, optional?, jsonOption, rowOfJson?_jsonRow within.1,
        rowOfJson?_jsonRow within.2.1, rowOfJson?_jsonRow within.2.2.1, declaredOfJson?]
  | block inputs sumRows otherOutputs delta =>
    simp only [OpDoc.nesting, TyDoc.nestingOfRows, Nat.max_le] at within
    rw [fields, tag?_record, Option.bind_eq_bind, Option.bind_some]
    dsimp only
    cases delta <;>
      simp [Form.record, List.filter_cons, Json.field?, record?, optional?, jsonOption, rowOfJson?_jsonRow within.1,
        rowOfJson?_jsonRow within.2.1, rowsOfJson?_jsonRows within.2.2, declaredOfJson?]
  | callIndirect signature =>
    rw [fields, tag?_record, Option.bind_eq_bind, Option.bind_some]
    dsimp only
    simp [Form.record, List.filter_cons, Json.field?, record?, required?, SignatureDoc.ofJson?_toJson within]
  | loadConstant ty | noop ty =>
    rw [fields, tag?_record, Option.bind_eq_bind, Option.bind_some]
    dsimp only
    simp [Form.record, List.filter_cons, Json.field?, record?, required?, TyDoc.ofJson?_toJson within]
  | tag index variants =>
    rw [fields, tag?_record, Option.bind_eq_bind, Option.bind_some]
    dsimp only
    simp [Form.record, List.filter_cons, Json.field?, record?, required?, optional?, int?,
      rowsOfJson?_jsonRows within]
  | lift types extension =>
    rw [fields, tag?_record, Option.bind_eq_bind, Option.bind_some]
    dsimp only
    simp [Form.record, List.filter_cons, Json.field?, record?, required?, optional?, text?, rowOfJson?_jsonRow within]
  | extension owner name args =>
    rw [fields, tag?_record, Option.bind_eq_bind, Option.bind_some]
    dsimp only
    simp [Form.record, List.filter_cons, Json.field?, record?, required?, optional?, text?,
      argsOfJson?_jsonArgs within]

end OpDoc

/-! ### Nodes, edges and programs -/

/-- The part for a node as it is written. -/
def NodeDoc.written (node : NodeDoc) : NodeDoc := { node with metadata := node.metadata.map Json.freeFields }

theorem NodeDoc.ofJson?_toJson {node : NodeDoc} (within : node.nesting ≤ maxNesting) (kept : node.op.IsPortable) :
    NodeDoc.ofJson? (node.toJson .compact) = some node.written := by
  obtain ⟨parent, op, metadata⟩ := node
  rw [NodeDoc.nesting, Nat.max_le] at within
  have readOp := OpDoc.ofJson?_toJson within.1 kept
  have keepsOp : Form.compact.keeps (op.toJson .compact) = true := by rw [OpDoc.toJson, Form.keeps_record]
  rw [NodeDoc.written]
  cases metadata with
  | none =>
    cases parent <;>
      simp [NodeDoc.ofJson?, NodeDoc.toJson, Form.record, List.filter_cons, Json.field?, record?, required?, optional?,
        nullable?, int?, jsonOption, keepsOp, readOp]
  | some fields =>
    have keepsFree : Form.compact.keeps (.obj (Json.freeFields fields)) = true := rfl
    cases parent <;>
      simp [NodeDoc.ofJson?, NodeDoc.toJson, Form.record, List.filter_cons, Json.field?, record?, required?, optional?,
        nullable?, int?, fields?, jsonOption, keepsOp, readOp, Json.freeData_eq, keepsFree]

theorem EdgeDoc.ofJson?_toJson (edge : EdgeDoc) : EdgeDoc.ofJson? (edge.toJson .compact) = some edge := by
  have ends : ∀ pair : Int × Int, endOfJson? (jsonPair pair) = some pair := fun _ => rfl
  have keepsEnd : ∀ pair : Int × Int, Form.compact.keeps (jsonPair pair) = true := fun _ => rfl
  simp [EdgeDoc.ofJson?, EdgeDoc.toJson, Form.record, List.filter_cons, Json.field?, record?, required?, optional?,
    ends, keepsEnd, EdgeKind.ofJson?_text]

namespace ProgramDoc

/-- The fields of the data of a program. -/
def jsonFields (program : ProgramDoc) : List (String × Json) :=
  [("version", .str documentVersion), ("nodes", .arr (program.nodes.map (NodeDoc.toJson .compact))),
    ("edges", .arr (program.edges.map (EdgeDoc.toJson .compact)))]

theorem toJson_eq (program : ProgramDoc) : program.toJson .compact = .obj program.jsonFields := rfl

/-- The document as it is written. -/
def written (program : ProgramDoc) : ProgramDoc := { program with nodes := program.nodes.map NodeDoc.written }

theorem ofFields?_jsonFields {program : ProgramDoc} (within : program.nesting ≤ maxNesting)
    (kept : ∀ node ∈ program.nodes, node.op.IsPortable) : ofFields? program.jsonFields = some program.written := by
  rw [ProgramDoc.nesting, deepest_le_iff] at within
  have nodes : list? NodeDoc.ofJson? (.arr (program.nodes.map (NodeDoc.toJson .compact))) =
      some (program.nodes.map NodeDoc.written) :=
    list?_map_of fun node mem => NodeDoc.ofJson?_toJson (within _ (List.mem_map_of_mem mem)) (kept node mem)
  have edges : list? EdgeDoc.ofJson? (.arr (program.edges.map (EdgeDoc.toJson .compact))) = some program.edges :=
    list?_map fun edge _ => EdgeDoc.ofJson?_toJson edge
  simp [ofFields?, jsonFields, Json.field?, record?, optional?, literal?, text?, nodes, edges, written]

end ProgramDoc

end NestedFlow
