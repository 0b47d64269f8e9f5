import NestedFlow.Document.Encode
import NestedFlow.Proofs.Document.Decoding
import NestedFlow.Proofs.ExtensionSet

/-! Types, values and operations that are recovered from their documents.

Decoding instantiates definitions anew, so it recovers what is an instance of its definition in the registry, all the
way down, and whose sets of extensions are recovered from their texts.
-/

set_option autoImplicit false

namespace NestedFlow

mutual

/-- Every custom type inside is the instance of its definition in the registry. -/
def Ty.Resolved (registry : Registry) : Ty → Prop
  | .custom extension name args bound boundFrom =>
    Arg.AllResolved registry args ∧
      registry.instantiateType extension name args = .ok (.custom extension name args bound boundFrom)
  | .sum variants => Row.AllResolved registry variants
  | .tuple row => Row.Resolved registry row
  | .function input output reqs => Row.Resolved registry input ∧ Row.Resolved registry output ∧ reqs.IsNamed
  | .var _ _ => True

def Row.Resolved (registry : Registry) : List Ty → Prop
  | [] => True
  | ty :: rest => Ty.Resolved registry ty ∧ Row.Resolved registry rest

def Row.AllResolved (registry : Registry) : List (List Ty) → Prop
  | [] => True
  | row :: rest => Row.Resolved registry row ∧ Row.AllResolved registry rest

def Arg.Resolved (registry : Registry) : Arg → Prop
  | .type ty => Ty.Resolved registry ty
  | .extensions set => set.IsNamed
  | .sequence elems => Arg.AllResolved registry elems
  | .nat _ | .string _ | .var _ _ => True

def Arg.AllResolved (registry : Registry) : List Arg → Prop
  | [] => True
  | arg :: rest => Arg.Resolved registry arg ∧ Arg.AllResolved registry rest

end

def Signature.Resolved (registry : Registry) (signature : Signature) : Prop :=
  Row.Resolved registry signature.input ∧ Row.Resolved registry signature.output ∧ signature.reqs.IsNamed

def Scheme.Resolved (registry : Registry) (scheme : Scheme) : Prop := scheme.body.Resolved registry

mutual

/-- The types inside are resolved, and no data stands in the place of a value. -/
def Value.Resolved (registry : Registry) : Value → Prop
  | .sum _ values => Value.AllResolved registry values
  | .tuple values => Value.AllResolved registry values
  | .extension typ _ => typ.Resolved registry
  | .raw _ => False

def Value.AllResolved (registry : Registry) : List Value → Prop
  | [] => True
  | value :: rest => Value.Resolved registry value ∧ Value.AllResolved registry rest

end

/-- What is declared, if anything, is recovered from its texts. -/
def DeltaNamed (delta : Option ExtensionSet) : Prop := ∀ set, delta = some set → set.IsNamed

/-- Everything inside is resolved, and an operation of an extension is the one that its definition gives. -/
def Op.Resolved (registry : Registry) : Op → Prop
  | .moduleRoot => True
  | .funcDefn _ signature | .funcDecl _ signature => signature.Resolved registry
  | .const value typ => value.Resolved registry ∧ typ.Resolved registry
  | .input types | .output types | .exit types | .lift types _ | .makeTuple types | .unpackTuple types =>
    Row.Resolved registry types
  | .dfg inputs outputs delta | .branch inputs outputs delta | .cfg inputs outputs delta =>
    Row.Resolved registry inputs ∧ Row.Resolved registry outputs ∧ DeltaNamed delta
  | .conditional sumRows otherInputs outputs delta =>
    Row.AllResolved registry sumRows ∧ Row.Resolved registry otherInputs ∧ Row.Resolved registry outputs ∧
      DeltaNamed delta
  | .tailLoop justInputs justOutputs rest delta =>
    Row.Resolved registry justInputs ∧ Row.Resolved registry justOutputs ∧ Row.Resolved registry rest ∧
      DeltaNamed delta
  | .block inputs sumRows otherOutputs delta =>
    Row.Resolved registry inputs ∧ Row.AllResolved registry sumRows ∧ Row.Resolved registry otherOutputs ∧
      DeltaNamed delta
  | .call function typeArgs signature | .loadFunction function typeArgs signature =>
    function.Resolved registry ∧ Arg.AllResolved registry typeArgs ∧ signature.Resolved registry
  | .callIndirect signature => signature.Resolved registry
  | .loadConstant ty | .noop ty => ty.Resolved registry
  | .tag variants _ => Row.AllResolved registry variants
  | .extension owner name args signature =>
    Arg.AllResolved registry args ∧ registry.instantiateOp owner name args = .ok (.extension owner name args signature)

variable {registry : Registry}

mutual

theorem Ty.decode_encode : ∀ {ty : Ty}, ty.Resolved registry → ty.encode.decode registry = .ok ty
  | .custom _ _ _ _ _, resolved => by
    rw [Ty.Resolved] at resolved
    rw [Ty.encode, TyDoc.decode, Arg.decodeAll_encodeAll resolved.1]
    exact resolved.2
  | .sum _, resolved => by
    rw [Ty.Resolved] at resolved
    rw [Ty.encode, TyDoc.decode, Row.decodeRows_encodeAll resolved]
    rfl
  | .tuple _, resolved => by
    rw [Ty.Resolved] at resolved
    rw [Ty.encode, TyDoc.decode, Row.decodeRow_encode resolved]
    rfl
  | .function _ _ _, resolved => by
    rw [Ty.Resolved] at resolved
    obtain ⟨input, output, reqs⟩ := resolved
    rw [Ty.encode, TyDoc.decode, Row.decodeRow_encode input, Outcome.ok_bind, Row.decodeRow_encode output,
      Outcome.ok_bind, ExtensionSet.ofStrings_toStrings reqs]
    rfl
  | .var _ _, _ => by rw [Ty.encode, TyDoc.decode]; rfl

theorem Row.decodeRow_encode : ∀ {row : List Ty}, Row.Resolved registry row →
    TyDoc.decodeRow registry (Row.encode row) = .ok row
  | [], _ => by rw [Row.encode, TyDoc.decodeRow]; rfl
  | _ :: _, resolved => by
    rw [Row.Resolved] at resolved
    rw [Row.encode, TyDoc.decodeRow, Ty.decode_encode resolved.1, Outcome.ok_bind,
      Row.decodeRow_encode resolved.2]
    rfl

theorem Row.decodeRows_encodeAll : ∀ {rows : List (List Ty)}, Row.AllResolved registry rows →
    TyDoc.decodeRows registry (Row.encodeAll rows) = .ok rows
  | [], _ => by rw [Row.encodeAll, TyDoc.decodeRows]; rfl
  | _ :: _, resolved => by
    rw [Row.AllResolved] at resolved
    rw [Row.encodeAll, TyDoc.decodeRows, Row.decodeRow_encode resolved.1, Outcome.ok_bind,
      Row.decodeRows_encodeAll resolved.2]
    rfl

theorem Arg.decode_encode : ∀ {arg : Arg}, arg.Resolved registry → arg.encode.decode registry = .ok arg
  | .type _, resolved => by
    rw [Arg.Resolved] at resolved
    rw [Arg.encode, ArgDoc.decode, Ty.decode_encode resolved]
    rfl
  | .nat _, _ => by rw [Arg.encode, ArgDoc.decode]; rfl
  | .string _, _ => by rw [Arg.encode, ArgDoc.decode]; rfl
  | .extensions _, resolved => by
    rw [Arg.Resolved] at resolved
    rw [Arg.encode, ArgDoc.decode, ExtensionSet.ofStrings_toStrings resolved]
    rfl
  | .sequence _, resolved => by
    rw [Arg.Resolved] at resolved
    rw [Arg.encode, ArgDoc.decode, Arg.decodeAll_encodeAll resolved]
    rfl
  | .var _ _, _ => by rw [Arg.encode, ArgDoc.decode]; rfl

theorem Arg.decodeAll_encodeAll : ∀ {args : List Arg}, Arg.AllResolved registry args →
    ArgDoc.decodeAll registry (Arg.encodeAll args) = .ok args
  | [], _ => by rw [Arg.encodeAll, ArgDoc.decodeAll]; rfl
  | _ :: _, resolved => by
    rw [Arg.AllResolved] at resolved
    rw [Arg.encodeAll, ArgDoc.decodeAll, Arg.decode_encode resolved.1, Outcome.ok_bind,
      Arg.decodeAll_encodeAll resolved.2]
    rfl

end

theorem Signature.decode_encode {signature : Signature} (resolved : signature.Resolved registry) :
    signature.encode.decode registry = .ok signature := by
  obtain ⟨input, output, reqs⟩ := resolved
  exact SignatureDoc.decode_eq_ok_iff.2
    ⟨Row.decodeRow_encode input, Row.decodeRow_encode output, ExtensionSet.ofStrings_toStrings reqs⟩

theorem Scheme.decode_encode {scheme : Scheme} (resolved : scheme.Resolved registry) :
    scheme.encode.decode registry = .ok scheme :=
  SchemeDoc.decode_eq_ok_iff.2 ⟨rfl, Signature.decode_encode resolved⟩

mutual

theorem Value.decode_encode : ∀ {value : Value}, value.Resolved registry →
    ∃ doc, value.encode = .ok doc ∧ doc.decode registry = .ok value
  | .sum tag _, resolved => by
    rw [Value.Resolved] at resolved
    obtain ⟨docs, encoded, decoded⟩ := Value.decodeAll_encodeAll resolved
    refine ⟨.sum tag docs, ?_, ?_⟩
    · rw [Value.encode, encoded]; rfl
    · rw [ValueDoc.decode, decoded]; rfl
  | .tuple _, resolved => by
    rw [Value.Resolved] at resolved
    obtain ⟨docs, encoded, decoded⟩ := Value.decodeAll_encodeAll resolved
    refine ⟨.tuple docs, ?_, ?_⟩
    · rw [Value.encode, encoded]; rfl
    · rw [ValueDoc.decode, decoded]; rfl
  | .extension typ payload, resolved => by
    rw [Value.Resolved] at resolved
    refine ⟨.extension typ.encode payload, ?_, ?_⟩
    · rw [Value.encode]; rfl
    · rw [ValueDoc.decode, Ty.decode_encode resolved]; rfl
  | .raw _, resolved => by
    rw [Value.Resolved] at resolved
    exact resolved.elim

theorem Value.decodeAll_encodeAll : ∀ {values : List Value}, Value.AllResolved registry values →
    ∃ docs, Value.encodeAll values = .ok docs ∧ ValueDoc.decodeAll registry docs = .ok values
  | [], _ => ⟨[], by rw [Value.encodeAll]; rfl, by rw [ValueDoc.decodeAll]; rfl⟩
  | _ :: _, resolved => by
    rw [Value.AllResolved] at resolved
    obtain ⟨doc, encoded, decoded⟩ := Value.decode_encode resolved.1
    obtain ⟨docs, allEncoded, allDecoded⟩ := Value.decodeAll_encodeAll resolved.2
    refine ⟨doc :: docs, ?_, ?_⟩
    · rw [Value.encodeAll, encoded, Outcome.ok_bind, allEncoded]; rfl
    · rw [ValueDoc.decodeAll, decoded, Outcome.ok_bind, allDecoded]; rfl

end

theorem decodeDelta_encodeDelta {delta : Option ExtensionSet} (named : DeltaNamed delta) :
    decodeDelta (encodeDelta delta) = .ok delta := by
  cases delta with
  | none => rfl
  | some set =>
    rw [encodeDelta, Option.map_some, decodeDelta, ExtensionSet.ofStrings_toStrings (named set rfl)]
    rfl

/-- What is written for a resolved operation is decoded as the operation. -/
theorem Op.decode_encode {op : Op} (resolved : op.Resolved registry) :
    ∃ doc, op.encode = .ok doc ∧ doc.decode registry = .ok op := by
  simp only [OpDoc.decode_eq_ok_iff]
  cases op with
  | const value typ =>
    obtain ⟨doc, encoded, decoded⟩ := Value.decode_encode resolved.1
    refine ⟨.const doc typ.encode, ?_, .const decoded (Ty.decode_encode resolved.2)⟩
    rw [Op.encode, encoded]
    rfl
  | moduleRoot => exact ⟨_, rfl, .moduleRoot⟩
  | funcDefn name signature => exact ⟨_, rfl, .funcDefn (Scheme.decode_encode resolved)⟩
  | funcDecl name signature => exact ⟨_, rfl, .funcDecl (Scheme.decode_encode resolved)⟩
  | input types => exact ⟨_, rfl, .input (Row.decodeRow_encode resolved)⟩
  | output types => exact ⟨_, rfl, .output (Row.decodeRow_encode resolved)⟩
  | exit types => exact ⟨_, rfl, .exit (Row.decodeRow_encode resolved)⟩
  | lift types extension => exact ⟨_, rfl, .lift (Row.decodeRow_encode resolved)⟩
  | makeTuple types => exact ⟨_, rfl, .makeTuple (Row.decodeRow_encode resolved)⟩
  | unpackTuple types => exact ⟨_, rfl, .unpackTuple (Row.decodeRow_encode resolved)⟩
  | dfg inputs outputs delta =>
    obtain ⟨first, second, declared⟩ := resolved
    exact ⟨_, rfl, .dfg (Row.decodeRow_encode first) (Row.decodeRow_encode second) (decodeDelta_encodeDelta declared)⟩
  | branch inputs outputs delta =>
    obtain ⟨first, second, declared⟩ := resolved
    exact ⟨_, rfl,
      .branch (Row.decodeRow_encode first) (Row.decodeRow_encode second) (decodeDelta_encodeDelta declared)⟩
  | cfg inputs outputs delta =>
    obtain ⟨first, second, declared⟩ := resolved
    exact ⟨_, rfl, .cfg (Row.decodeRow_encode first) (Row.decodeRow_encode second) (decodeDelta_encodeDelta declared)⟩
  | conditional sumRows otherInputs outputs delta =>
    obtain ⟨first, second, third, declared⟩ := resolved
    exact ⟨_, rfl, .conditional (Row.decodeRows_encodeAll first) (Row.decodeRow_encode second)
      (Row.decodeRow_encode third) (decodeDelta_encodeDelta declared)⟩
  | tailLoop justInputs justOutputs rest delta =>
    obtain ⟨first, second, third, declared⟩ := resolved
    exact ⟨_, rfl, .tailLoop (Row.decodeRow_encode first) (Row.decodeRow_encode second) (Row.decodeRow_encode third)
      (decodeDelta_encodeDelta declared)⟩
  | block inputs sumRows otherOutputs delta =>
    obtain ⟨first, second, third, declared⟩ := resolved
    exact ⟨_, rfl, .block (Row.decodeRow_encode first) (Row.decodeRows_encodeAll second) (Row.decodeRow_encode third)
      (decodeDelta_encodeDelta declared)⟩
  | call function typeArgs signature =>
    obtain ⟨first, second, third⟩ := resolved
    exact ⟨_, rfl,
      .call (Scheme.decode_encode first) (Arg.decodeAll_encodeAll second) (Signature.decode_encode third)⟩
  | loadFunction function typeArgs signature =>
    obtain ⟨first, second, third⟩ := resolved
    exact ⟨_, rfl,
      .loadFunction (Scheme.decode_encode first) (Arg.decodeAll_encodeAll second) (Signature.decode_encode third)⟩
  | callIndirect signature => exact ⟨_, rfl, .callIndirect (Signature.decode_encode resolved)⟩
  | loadConstant ty => exact ⟨_, rfl, .loadConstant (Ty.decode_encode resolved)⟩
  | noop ty => exact ⟨_, rfl, .noop (Ty.decode_encode resolved)⟩
  | tag variants index => exact ⟨_, rfl, .tag (Row.decodeRows_encodeAll resolved) index⟩
  | extension owner name args signature =>
    exact ⟨_, rfl, .extension (Arg.decodeAll_encodeAll resolved.1) resolved.2⟩

end NestedFlow
