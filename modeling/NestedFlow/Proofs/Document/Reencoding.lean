import NestedFlow.Document.Encode
import NestedFlow.Proofs.Document.Decoding
import NestedFlow.Proofs.Document.Nulls

/-! What is written for a part of a document that was read.

Names, bounds and sets of extensions may come out in another way. The nesting stays, and the data is kindred, so that
it is within the limits if the document was.
-/

set_option autoImplicit false

namespace NestedFlow

open Json (Kindred)

variable {registry : Registry}

/-- Whatever names an instance has, it has the given arguments. -/
theorem Registry.args_of_instantiateType {extension name : String} {args : List Arg} {ty : Ty}
    (made : registry.instantiateType extension name args = .ok ty) :
    ∃ owner id bound boundFrom, ty = .custom owner id args bound boundFrom := by
  obtain ⟨definition, -, made⟩ := Outcome.bind_eq_ok_iff.1 made
  obtain ⟨_, -, made⟩ := Outcome.bind_eq_ok_iff.1 made
  obtain ⟨bound, -, made⟩ := Outcome.bind_eq_ok_iff.1 made
  cases from? : definition.boundFrom? with
  | none =>
    rw [from?] at made
    cases made
    exact ⟨_, _, _, _, rfl⟩
  | some positions =>
    rw [from?] at made
    obtain ⟨derived, -, made⟩ := Outcome.bind_eq_ok_iff.1 made
    cases made
    exact ⟨_, _, _, _, rfl⟩

theorem Registry.args_of_instantiateOp {extension name : String} {args : List Arg} {op : Op}
    (made : registry.instantiateOp extension name args = .ok op) :
    ∃ owner id signature, op = .extension owner id args signature := by
  obtain ⟨definition, -, made⟩ := Outcome.bind_eq_ok_iff.1 made
  obtain ⟨signature, -, made⟩ := Outcome.bind_eq_ok_iff.1 made
  cases made
  exact ⟨_, _, _, rfl⟩

/-- A part that takes as many levels as another one, and has kindred data. -/
structure Resembles (levels others : Nat) (first second : Json) : Prop where
  nesting : levels = others
  data : Kindred first second

/-! ### Types and arguments -/

mutual

theorem TyDoc.reencoded : ∀ {doc : TyDoc} {ty : Ty}, doc.decode registry = .ok ty →
    Resembles (ty.encode.nesting Rank.document) (doc.nesting Rank.document) (ty.encode.toJson .compact)
      (doc.toJson .compact)
  | .custom _ _ _ _, _, decoded => by
    rw [TyDoc.decode] at decoded
    obtain ⟨args, read, made⟩ := Outcome.bind_eq_ok_iff.1 decoded
    obtain ⟨owner, id, bound, _, rfl⟩ := Registry.args_of_instantiateType made
    have inner := ArgDoc.reencodedAll read
    rw [Ty.encode, TyDoc.toJson, TyDoc.toJson]
    refine ⟨by simp [TyDoc.nesting, inner.nesting], .record ?_⟩
    exact .same (.field (.str _ _) (.field (.str _ _) (.field inner.data (.field (.str _ _) .nil))))
  | .sum _, _, decoded => by
    rw [TyDoc.decode] at decoded
    obtain ⟨variants, read, made⟩ := Outcome.bind_eq_ok_iff.1 decoded
    cases made
    have inner := TyDoc.reencodedRows read
    rw [Ty.encode, TyDoc.toJson, TyDoc.toJson]
    exact ⟨by simp [TyDoc.nesting, inner.nesting], .record (.same (.field inner.data .nil))⟩
  | .tuple _, _, decoded => by
    rw [TyDoc.decode] at decoded
    obtain ⟨row, read, made⟩ := Outcome.bind_eq_ok_iff.1 decoded
    cases made
    have inner := TyDoc.reencodedRow read
    rw [Ty.encode, TyDoc.toJson, TyDoc.toJson]
    exact ⟨by simp [TyDoc.nesting, inner.nesting], .record (.same (.field inner.data .nil))⟩
  | .function _ _ _, _, decoded => by
    rw [TyDoc.decode] at decoded
    obtain ⟨input, readInput, decoded⟩ := Outcome.bind_eq_ok_iff.1 decoded
    obtain ⟨output, readOutput, decoded⟩ := Outcome.bind_eq_ok_iff.1 decoded
    obtain ⟨reqs, -, made⟩ := Outcome.bind_eq_ok_iff.1 decoded
    cases made
    have inputs := TyDoc.reencodedRow readInput
    have outputs := TyDoc.reencodedRow readOutput
    rw [Ty.encode, TyDoc.toJson, TyDoc.toJson]
    refine ⟨by simp [TyDoc.nesting, inputs.nesting, outputs.nesting], .record ?_⟩
    exact .same (.field inputs.data (.field outputs.data (.field (.texts _ _) .nil)))
  | .var _ _, _, decoded => by
    rw [TyDoc.decode] at decoded
    cases decoded
    exact ⟨rfl, .refl _⟩

theorem TyDoc.reencodedRow : ∀ {docs : List TyDoc} {row : List Ty}, TyDoc.decodeRow registry docs = .ok row →
    Resembles (TyDoc.nestingOfRow Rank.document (Row.encode row)) (TyDoc.nestingOfRow Rank.document docs)
      (jsonRow .compact (Row.encode row)) (jsonRow .compact docs)
  | [], _, decoded => by
    rw [TyDoc.decodeRow] at decoded
    cases decoded
    exact ⟨rfl, .refl _⟩
  | _ :: _, _, decoded => by
    rw [TyDoc.decodeRow] at decoded
    obtain ⟨ty, readFirst, decoded⟩ := Outcome.bind_eq_ok_iff.1 decoded
    obtain ⟨rest, readRest, made⟩ := Outcome.bind_eq_ok_iff.1 decoded
    cases made
    have first := TyDoc.reencoded readFirst
    have others := TyDoc.reencodedRow readRest
    rw [Row.encode, jsonRow, jsonRow, TyDoc.rowToJson, TyDoc.rowToJson, TyDoc.nestingOfRow, TyDoc.nestingOfRow]
    exact ⟨by rw [first.nesting, others.nesting], .cons first.data others.data⟩

theorem TyDoc.reencodedRows : ∀ {docs : List (List TyDoc)} {rows : List (List Ty)},
    TyDoc.decodeRows registry docs = .ok rows →
    Resembles (TyDoc.nestingOfRows Rank.document (Row.encodeAll rows)) (TyDoc.nestingOfRows Rank.document docs)
      (jsonRows .compact (Row.encodeAll rows)) (jsonRows .compact docs)
  | [], _, decoded => by
    rw [TyDoc.decodeRows] at decoded
    cases decoded
    exact ⟨rfl, .refl _⟩
  | _ :: _, _, decoded => by
    rw [TyDoc.decodeRows] at decoded
    obtain ⟨row, readFirst, decoded⟩ := Outcome.bind_eq_ok_iff.1 decoded
    obtain ⟨rest, readRest, made⟩ := Outcome.bind_eq_ok_iff.1 decoded
    cases made
    have first := TyDoc.reencodedRow readFirst
    have others := TyDoc.reencodedRows readRest
    rw [Row.encodeAll, jsonRows, jsonRows, TyDoc.rowsToJson, TyDoc.rowsToJson, TyDoc.nestingOfRows,
      TyDoc.nestingOfRows]
    exact ⟨by rw [first.nesting, others.nesting], .cons first.data others.data⟩

theorem ArgDoc.reencoded : ∀ {doc : ArgDoc} {arg : Arg}, doc.decode registry = .ok arg →
    Resembles (arg.encode.nesting Rank.document) (doc.nesting Rank.document) (arg.encode.toJson .compact)
      (doc.toJson .compact)
  | .type _, _, decoded => by
    rw [ArgDoc.decode] at decoded
    obtain ⟨ty, read, made⟩ := Outcome.bind_eq_ok_iff.1 decoded
    cases made
    have inner := TyDoc.reencoded read
    rw [Arg.encode, ArgDoc.toJson, ArgDoc.toJson]
    exact ⟨by simp [ArgDoc.nesting, inner.nesting], .record (.same (.field inner.data .nil))⟩
  | .extensions _, _, decoded => by
    rw [ArgDoc.decode] at decoded
    obtain ⟨set, -, made⟩ := Outcome.bind_eq_ok_iff.1 decoded
    cases made
    rw [Arg.encode, ArgDoc.toJson, ArgDoc.toJson]
    exact ⟨rfl, .record (.same (.field (.texts _ _) .nil))⟩
  | .sequence _, _, decoded => by
    rw [ArgDoc.decode] at decoded
    obtain ⟨elems, read, made⟩ := Outcome.bind_eq_ok_iff.1 decoded
    cases made
    have inner := ArgDoc.reencodedAll read
    rw [Arg.encode, ArgDoc.toJson, ArgDoc.toJson]
    exact ⟨by simp [ArgDoc.nesting, inner.nesting], .record (.same (.field inner.data .nil))⟩
  | .nat _, _, decoded | .string _, _, decoded | .var _ _, _, decoded => by
    rw [ArgDoc.decode] at decoded
    cases decoded
    exact ⟨rfl, .refl _⟩

theorem ArgDoc.reencodedAll : ∀ {docs : List ArgDoc} {args : List Arg}, ArgDoc.decodeAll registry docs = .ok args →
    Resembles (ArgDoc.nestingOfAll Rank.document (Arg.encodeAll args)) (ArgDoc.nestingOfAll Rank.document docs)
      (jsonArgs .compact (Arg.encodeAll args)) (jsonArgs .compact docs)
  | [], _, decoded => by
    rw [ArgDoc.decodeAll] at decoded
    cases decoded
    exact ⟨rfl, .refl _⟩
  | _ :: _, _, decoded => by
    rw [ArgDoc.decodeAll] at decoded
    obtain ⟨arg, readFirst, decoded⟩ := Outcome.bind_eq_ok_iff.1 decoded
    obtain ⟨rest, readRest, made⟩ := Outcome.bind_eq_ok_iff.1 decoded
    cases made
    have first := ArgDoc.reencoded readFirst
    have others := ArgDoc.reencodedAll readRest
    rw [Arg.encodeAll, jsonArgs, jsonArgs, ArgDoc.allToJson, ArgDoc.allToJson, ArgDoc.nestingOfAll,
      ArgDoc.nestingOfAll]
    exact ⟨by rw [first.nesting, others.nesting], .cons first.data others.data⟩

end

theorem SignatureDoc.reencoded {doc : SignatureDoc} {signature : Signature}
    (decoded : doc.decode registry = .ok signature) :
    Resembles signature.encode.nesting doc.nesting (signature.encode.toJson .compact) (doc.toJson .compact) := by
  obtain ⟨input, output, reqs⟩ := SignatureDoc.decode_eq_ok_iff.1 decoded
  -- a signature is written as the type of functions with this signature
  have asType : doc.toTy.decode registry = .ok (.function signature.input signature.output signature.reqs) := by
    rw [SignatureDoc.toTy, TyDoc.decode, input, Outcome.ok_bind, output, Outcome.ok_bind, reqs]
    rfl
  have same : (Ty.function signature.input signature.output signature.reqs).encode = signature.encode.toTy := by
    rw [Ty.encode]
    rfl
  have inner := TyDoc.reencoded asType
  rw [same] at inner
  exact inner

theorem SchemeDoc.reencoded {doc : SchemeDoc} {scheme : Scheme} (decoded : doc.decode registry = .ok scheme) :
    Resembles scheme.encode.nesting doc.nesting (scheme.encode.toJson .compact) (doc.toJson .compact) := by
  obtain ⟨params, body⟩ := doc
  obtain ⟨rfl, read⟩ := SchemeDoc.decode_eq_ok_iff.1 decoded
  have inner := SignatureDoc.reencoded read
  refine ⟨?_, .record (.same (.field inner.data .nil))⟩
  rw [SchemeDoc.nesting, SchemeDoc.nesting, ← inner.nesting]
  rfl

theorem delta_reencoded {entries : Option (List String)} {delta : Option ExtensionSet}
    (decoded : decodeDelta entries = .ok delta) :
    Kindred (jsonOption jsonTexts (encodeDelta delta)) (jsonOption jsonTexts entries) := by
  cases entries with
  | none =>
    cases decoded
    exact .refl _
  | some entries =>
    obtain ⟨set, -, made⟩ := Outcome.bind_eq_ok_iff.1 decoded
    cases made
    exact .texts _ _

/-! ### Values -/

/-- What is written for a value that was read, with the fields of its data that are null and without them. -/
structure ValueDoc.Reencoded (registry : Registry) (doc : ValueDoc) (value : Value) (out : ValueDoc) : Prop where
  encoded : value.encode = .ok out
  resembles : Resembles out.nesting doc.nesting (out.toJson .compact) (doc.toJson .compact)
  portable : out.IsPortable
  stripped : ∃ other, doc.withoutNulls.decode registry = .ok other ∧ other.encode = .ok out.withoutNulls

structure ValueDoc.ReencodedAll (registry : Registry) (docs : List ValueDoc) (values : List Value)
    (outs : List ValueDoc) : Prop where
  encoded : Value.encodeAll values = .ok outs
  resembles : Resembles (ValueDoc.nestingOfAll outs) (ValueDoc.nestingOfAll docs)
    (.arr (ValueDoc.allToJson .compact outs)) (.arr (ValueDoc.allToJson .compact docs))
  portable : ValueDoc.ArePortable outs
  stripped : ∃ others, ValueDoc.decodeAll registry (ValueDoc.allWithoutNulls docs) = .ok others ∧
    Value.encodeAll others = .ok (ValueDoc.allWithoutNulls outs)

mutual

theorem ValueDoc.exists_reencoded : ∀ {doc : ValueDoc} {value : Value}, doc.IsPortable →
    doc.decode registry = .ok value → ∃ out, doc.Reencoded registry value out
  | .sum tag docs, _, kept, decoded => by
    rw [ValueDoc.IsPortable] at kept
    rw [ValueDoc.decode] at decoded
    obtain ⟨values, read, made⟩ := Outcome.bind_eq_ok_iff.1 decoded
    cases made
    obtain ⟨outs, inner⟩ := ValueDoc.exists_reencodedAll kept read
    obtain ⟨others, readOthers, encodedOthers⟩ := inner.stripped
    refine ⟨.sum tag outs, ?_, ⟨?_, ?_⟩, ?_, .sum tag others, ?_, ?_⟩
    · rw [Value.encode, inner.encoded]
      rfl
    · rw [ValueDoc.nesting, ValueDoc.nesting, inner.resembles.nesting]
    · rw [ValueDoc.toJson, ValueDoc.toJson]
      exact .record (.same (.same (.field inner.resembles.data .nil)))
    · rw [ValueDoc.IsPortable]
      exact inner.portable
    · rw [ValueDoc.withoutNulls, ValueDoc.decode, readOthers]
      rfl
    · rw [Value.encode, encodedOthers, ValueDoc.withoutNulls]
      rfl
  | .tuple docs, _, kept, decoded => by
    rw [ValueDoc.IsPortable] at kept
    rw [ValueDoc.decode] at decoded
    obtain ⟨values, read, made⟩ := Outcome.bind_eq_ok_iff.1 decoded
    cases made
    obtain ⟨outs, inner⟩ := ValueDoc.exists_reencodedAll kept read
    obtain ⟨others, readOthers, encodedOthers⟩ := inner.stripped
    refine ⟨.tuple outs, ?_, ⟨?_, ?_⟩, ?_, .tuple others, ?_, ?_⟩
    · rw [Value.encode, inner.encoded]
      rfl
    · rw [ValueDoc.nesting, ValueDoc.nesting, inner.resembles.nesting]
    · rw [ValueDoc.toJson, ValueDoc.toJson]
      exact .record (.same (.field inner.resembles.data .nil))
    · rw [ValueDoc.IsPortable]
      exact inner.portable
    · rw [ValueDoc.withoutNulls, ValueDoc.decode, readOthers]
      rfl
    · rw [Value.encode, encodedOthers, ValueDoc.withoutNulls]
      rfl
  | .extension typ payload, _, kept, decoded => by
    have keptOut : ∀ typ, (ValueDoc.extension typ payload).IsPortable := fun _ => by
      rwa [ValueDoc.IsPortable] at kept ⊢
    rw [ValueDoc.IsPortable] at kept
    rw [ValueDoc.decode] at decoded
    obtain ⟨ty, read, made⟩ := Outcome.bind_eq_ok_iff.1 decoded
    cases made
    have inner := TyDoc.reencoded read
    refine ⟨.extension ty.encode payload, ?_, ⟨?_, ?_⟩, keptOut _, .extension ty (Storage.withoutNulls payload), ?_, ?_⟩
    · rw [Value.encode]
      rfl
    · rw [ValueDoc.nesting, ValueDoc.nesting, inner.nesting]
    · rw [ValueDoc.toJson_extension _ kept, ValueDoc.toJson_extension _ kept]
      exact .record (.same (.field inner.data (.same .nil)))
    · rw [ValueDoc.withoutNulls, ValueDoc.decode, read]
      rfl
    · rw [Value.encode, ValueDoc.withoutNulls]
      rfl

theorem ValueDoc.exists_reencodedAll : ∀ {docs : List ValueDoc} {values : List Value}, ValueDoc.ArePortable docs →
    ValueDoc.decodeAll registry docs = .ok values → ∃ outs, ValueDoc.ReencodedAll registry docs values outs
  | [], _, kept, decoded => by
    rw [ValueDoc.decodeAll] at decoded
    cases decoded
    exact ⟨[], by rw [Value.encodeAll]; rfl, ⟨rfl, .refl _⟩, kept, [],
      by rw [ValueDoc.allWithoutNulls, ValueDoc.decodeAll]; rfl, by rw [ValueDoc.allWithoutNulls, Value.encodeAll]; rfl⟩
  | doc :: docs, _, kept, decoded => by
    rw [ValueDoc.ArePortable] at kept
    rw [ValueDoc.decodeAll] at decoded
    obtain ⟨value, readFirst, decoded⟩ := Outcome.bind_eq_ok_iff.1 decoded
    obtain ⟨values, readRest, made⟩ := Outcome.bind_eq_ok_iff.1 decoded
    cases made
    obtain ⟨out, first⟩ := ValueDoc.exists_reencoded kept.1 readFirst
    obtain ⟨outs, rest⟩ := ValueDoc.exists_reencodedAll kept.2 readRest
    obtain ⟨other, readOther, encodedOther⟩ := first.stripped
    obtain ⟨others, readOthers, encodedOthers⟩ := rest.stripped
    refine ⟨out :: outs, ?_, ⟨?_, ?_⟩, ?_, other :: others, ?_, ?_⟩
    · rw [Value.encodeAll, first.encoded, Outcome.ok_bind, rest.encoded]
      rfl
    · rw [ValueDoc.nestingOfAll, ValueDoc.nestingOfAll, first.resembles.nesting, rest.resembles.nesting]
    · rw [ValueDoc.allToJson, ValueDoc.allToJson]
      exact .cons first.resembles.data rest.resembles.data
    · rw [ValueDoc.ArePortable]
      exact ⟨first.portable, rest.portable⟩
    · rw [ValueDoc.allWithoutNulls, ValueDoc.decodeAll, readOther, Outcome.ok_bind, readOthers]
      rfl
    · rw [Value.encodeAll, encodedOther, Outcome.ok_bind, encodedOthers, ValueDoc.allWithoutNulls]
      rfl

end

/-! ### Operations -/

namespace OpDoc

/-- What is written for an operation that was read, with the null fields of its data and without them. -/
structure Reencoded (registry : Registry) (doc : OpDoc) (op : Op) (out : OpDoc) : Prop where
  encoded : op.encode = .ok out
  resembles : Resembles out.nesting doc.nesting (out.toJson .compact) (doc.toJson .compact)
  portable : out.IsPortable
  stripped : ∃ other, doc.withoutNulls.decode registry = .ok other ∧ other.encode = .ok out.withoutNulls ∧
    ∀ direction, other.portCount direction = op.portCount direction

/-- Most operations have no data of their own. -/
theorem reencoded_of_same {doc : OpDoc} {op : Op} {out : OpDoc} (decoded : doc.decode registry = .ok op)
    (encoded : op.encode = .ok out) (plain : doc.withoutNulls = doc) (plainOut : out.withoutNulls = out)
    (portable : out.IsPortable) (nesting : out.nesting = doc.nesting)
    (fields : Json.KindredFields (out.fields .compact) (doc.fields .compact)) : doc.Reencoded registry op out :=
  ⟨encoded, ⟨nesting, .record fields⟩, portable, op, plain.symm ▸ decoded, plainOut.symm ▸ encoded, fun _ => rfl⟩

/-- The data of a constant is in its value, which need not be the same without null fields. -/
theorem reencoded_const {doc out : ValueDoc} {value : Value} {typ : TyDoc} {ty : Ty}
    (constant : doc.Reencoded registry value out) (readTy : typ.decode registry = .ok ty) :
    (const doc typ).Reencoded registry (.const value ty) (.const out ty.encode) := by
  obtain ⟨other, readOther, encodedOther⟩ := constant.stripped
  have inner := TyDoc.reencoded readTy
  refine ⟨?_, ⟨?_, ?_⟩, constant.portable, .const other ty, ?_, ?_, ?_⟩
  · rw [Op.encode, constant.encoded]
    rfl
  · rw [nesting, nesting, constant.resembles.nesting, inner.nesting]
  · exact .record (.same (.field constant.resembles.data (.field inner.data .nil)))
  · rw [withoutNulls, decode, readOther, Outcome.ok_bind, readTy]
    rfl
  · rw [Op.encode, encodedOther]
    rfl
  · exact fun direction => by cases direction <;> rfl

/-- Something is written for every operation that is read, with the null fields of its data and without them. -/
theorem exists_reencoded {doc : OpDoc} {op : Op} (kept : doc.IsPortable) (decoded : doc.decode registry = .ok op) :
    ∃ out, doc.Reencoded registry op out := by
  cases OpDoc.decode_eq_ok_iff.1 decoded with
  | moduleRoot => exact ⟨_, reencoded_of_same decoded rfl rfl rfl trivial rfl (.same .nil)⟩
  | funcDefn signature | funcDecl signature =>
    have inner := SchemeDoc.reencoded signature
    exact ⟨_, reencoded_of_same decoded rfl rfl rfl trivial inner.nesting (.same (.same (.field inner.data .nil)))⟩
  | const constant typ =>
    obtain ⟨out, reencoded⟩ := ValueDoc.exists_reencoded kept constant
    exact ⟨_, reencoded_const reencoded typ⟩
  | input types | output types | exit types | makeTuple types | unpackTuple types =>
    have inner := TyDoc.reencodedRow types
    exact ⟨_, reencoded_of_same decoded rfl rfl rfl trivial inner.nesting (.same (.field inner.data .nil))⟩
  | lift types =>
    have inner := TyDoc.reencodedRow types
    exact ⟨_, reencoded_of_same decoded rfl rfl rfl trivial inner.nesting (.same (.field inner.data (.same .nil)))⟩
  | dfg inputs outputs delta | branch inputs outputs delta | cfg inputs outputs delta =>
    have ins := TyDoc.reencodedRow inputs
    have outs := TyDoc.reencodedRow outputs
    refine ⟨_, reencoded_of_same decoded rfl rfl rfl trivial ?_ (.same (.field ins.data
      (.field outs.data (.field (delta_reencoded delta) .nil))))⟩
    simp only [nesting, TyDoc.nestingOfRows, ins.nesting, outs.nesting]
  | conditional sumRows inputs outputs delta =>
    have sums := TyDoc.reencodedRows sumRows
    have ins := TyDoc.reencodedRow inputs
    have outs := TyDoc.reencodedRow outputs
    refine ⟨_, reencoded_of_same decoded rfl rfl rfl trivial ?_ (.same (.field sums.data
      (.field ins.data (.field outs.data (.field (delta_reencoded delta) .nil)))))⟩
    simp only [nesting, TyDoc.nestingOfRows, sums.nesting, ins.nesting, outs.nesting]
  | tailLoop inputs outputs rest delta =>
    have ins := TyDoc.reencodedRow inputs
    have outs := TyDoc.reencodedRow outputs
    have others := TyDoc.reencodedRow rest
    refine ⟨_, reencoded_of_same decoded rfl rfl rfl trivial ?_ (.same (.field ins.data
      (.field outs.data (.field others.data (.field (delta_reencoded delta) .nil)))))⟩
    simp only [nesting, TyDoc.nestingOfRows, ins.nesting, outs.nesting, others.nesting]
  | block inputs sumRows outputs delta =>
    have ins := TyDoc.reencodedRow inputs
    have sums := TyDoc.reencodedRows sumRows
    have outs := TyDoc.reencodedRow outputs
    refine ⟨_, reencoded_of_same decoded rfl rfl rfl trivial ?_ (.same (.field ins.data
      (.field sums.data (.field outs.data (.field (delta_reencoded delta) .nil)))))⟩
    simp only [nesting, TyDoc.nestingOfRows, sums.nesting, ins.nesting, outs.nesting]
  | call function typeArgs given | loadFunction function typeArgs given =>
    have called := SchemeDoc.reencoded function
    have args := ArgDoc.reencodedAll typeArgs
    have inner := SignatureDoc.reencoded given
    refine ⟨_, reencoded_of_same decoded rfl rfl rfl trivial ?_ (.same (.field called.data
      (.field args.data (.field inner.data .nil))))⟩
    simp only [nesting, called.nesting, args.nesting, inner.nesting]
  | callIndirect given =>
    have inner := SignatureDoc.reencoded given
    exact ⟨_, reencoded_of_same decoded rfl rfl rfl trivial inner.nesting (.same (.field inner.data .nil))⟩
  | loadConstant typ | noop typ =>
    have inner := TyDoc.reencoded typ
    exact ⟨_, reencoded_of_same decoded rfl rfl rfl trivial inner.nesting (.same (.field inner.data .nil))⟩
  | tag sumRows index =>
    have inner := TyDoc.reencodedRows sumRows
    exact ⟨_, reencoded_of_same decoded rfl rfl rfl trivial inner.nesting (.same (.same (.field inner.data .nil)))⟩
  | extension typeArgs made =>
    have inner := ArgDoc.reencodedAll typeArgs
    obtain ⟨_, _, signature, rfl⟩ := Registry.args_of_instantiateOp made
    exact ⟨_, reencoded_of_same decoded rfl rfl rfl trivial inner.nesting
      (.same (.field (.str _ _) (.field (.str _ _) (.field inner.data .nil))))⟩

end OpDoc

end NestedFlow
