import NestedFlow.Document.Decode
import NestedFlow.Proofs.Outcome

/-! Documents of operations and the operations that they are decoded as, by the shape of the document.

Decoding succeeds exactly if the parts are decoded, from the left to the right. What is known of the parts is therefore
carried over to operations by cases on one relation.
-/

set_option autoImplicit false

namespace NestedFlow

open Outcome

variable {registry : Registry}

theorem SignatureDoc.decode_eq_ok_iff {doc : SignatureDoc} {signature : Signature} :
    doc.decode registry = .ok signature ↔
      TyDoc.decodeRow registry doc.input = .ok signature.input ∧
        TyDoc.decodeRow registry doc.output = .ok signature.output ∧
          ExtensionSet.ofStrings doc.reqs = .ok signature.reqs := by
  constructor
  · intro decoded
    obtain ⟨input, readInput, decoded⟩ := bind_eq_ok_iff.1 decoded
    obtain ⟨output, readOutput, decoded⟩ := bind_eq_ok_iff.1 decoded
    obtain ⟨reqs, readReqs, made⟩ := bind_eq_ok_iff.1 decoded
    cases made
    exact ⟨readInput, readOutput, readReqs⟩
  · rintro ⟨input, output, reqs⟩
    rw [decode, input, ok_bind, output, ok_bind, reqs]
    rfl

theorem SchemeDoc.decode_eq_ok_iff {doc : SchemeDoc} {scheme : Scheme} :
    doc.decode registry = .ok scheme ↔ doc.params = scheme.params ∧ doc.body.decode registry = .ok scheme.body := by
  constructor
  · intro decoded
    obtain ⟨body, read, made⟩ := bind_eq_ok_iff.1 decoded
    cases made
    exact ⟨rfl, read⟩
  · rintro ⟨params, body⟩
    rw [decode, body, params]
    rfl

theorem Op.tagAt_eq_ok_iff {tag : Int} {variants : List Row} {op : Op} :
    Op.tagAt tag variants = .ok op ↔ ∃ index : Fin variants.length, tag = index.val ∧ op = .tag variants index := by
  rw [Op.tagAt]
  constructor
  · intro made
    split at made
    · rename_i inRange
      cases made
      exact ⟨_, (Int.toNat_of_nonneg inRange.1).symm, rfl⟩
    · cases made
  · rintro ⟨index, rfl, rfl⟩
    have inRange : 0 ≤ (index.val : Int) ∧ (index.val : Int) < variants.length := by omega
    rw [dif_pos inRange]
    rfl

/-- The parts of a document are decoded as the parts of an operation. An operation of an extension is the instance at
the arguments, and the index of a variant is one of the variants. -/
inductive OpDoc.Decodes (registry : Registry) : OpDoc → Op → Prop where
  | moduleRoot : Decodes registry .moduleRoot .moduleRoot
  | funcDefn {name : String} {doc : SchemeDoc} {scheme : Scheme} (signature : doc.decode registry = .ok scheme) :
      Decodes registry (.funcDefn name doc) (.funcDefn name scheme)
  | funcDecl {name : String} {doc : SchemeDoc} {scheme : Scheme} (signature : doc.decode registry = .ok scheme) :
      Decodes registry (.funcDecl name doc) (.funcDecl name scheme)
  | const {valueDoc : ValueDoc} {tyDoc : TyDoc} {value : Value} {ty : Ty} (constant : valueDoc.decode registry = .ok value)
      (typ : tyDoc.decode registry = .ok ty) : Decodes registry (.const valueDoc tyDoc) (.const value ty)
  | input {docs : List TyDoc} {row : Row} (types : TyDoc.decodeRow registry docs = .ok row) :
      Decodes registry (.input docs) (.input row)
  | output {docs : List TyDoc} {row : Row} (types : TyDoc.decodeRow registry docs = .ok row) :
      Decodes registry (.output docs) (.output row)
  | dfg {docs others : List TyDoc} {entries : Option (List String)} {row results : Row} {set : Option ExtensionSet}
      (inputs : TyDoc.decodeRow registry docs = .ok row) (outputs : TyDoc.decodeRow registry others = .ok results)
      (delta : decodeDelta entries = .ok set) : Decodes registry (.dfg docs others entries) (.dfg row results set)
  | conditional {variants : List (List TyDoc)} {docs others : List TyDoc} {entries : Option (List String)}
      {rows : List Row} {row results : Row} {set : Option ExtensionSet}
      (sumRows : TyDoc.decodeRows registry variants = .ok rows) (inputs : TyDoc.decodeRow registry docs = .ok row)
      (outputs : TyDoc.decodeRow registry others = .ok results) (delta : decodeDelta entries = .ok set) :
      Decodes registry (.conditional variants docs others entries) (.conditional rows row results set)
  | branch {docs others : List TyDoc} {entries : Option (List String)} {row results : Row} {set : Option ExtensionSet}
      (inputs : TyDoc.decodeRow registry docs = .ok row) (outputs : TyDoc.decodeRow registry others = .ok results)
      (delta : decodeDelta entries = .ok set) : Decodes registry (.branch docs others entries) (.branch row results set)
  | tailLoop {docs others further : List TyDoc} {entries : Option (List String)} {row results both : Row}
      {set : Option ExtensionSet} (inputs : TyDoc.decodeRow registry docs = .ok row)
      (outputs : TyDoc.decodeRow registry others = .ok results) (rest : TyDoc.decodeRow registry further = .ok both)
      (delta : decodeDelta entries = .ok set) :
      Decodes registry (.tailLoop docs others further entries) (.tailLoop row results both set)
  | cfg {docs others : List TyDoc} {entries : Option (List String)} {row results : Row} {set : Option ExtensionSet}
      (inputs : TyDoc.decodeRow registry docs = .ok row) (outputs : TyDoc.decodeRow registry others = .ok results)
      (delta : decodeDelta entries = .ok set) : Decodes registry (.cfg docs others entries) (.cfg row results set)
  | block {docs : List TyDoc} {variants : List (List TyDoc)} {others : List TyDoc} {entries : Option (List String)}
      {row : Row} {rows : List Row} {results : Row} {set : Option ExtensionSet}
      (inputs : TyDoc.decodeRow registry docs = .ok row) (sumRows : TyDoc.decodeRows registry variants = .ok rows)
      (outputs : TyDoc.decodeRow registry others = .ok results) (delta : decodeDelta entries = .ok set) :
      Decodes registry (.block docs variants others entries) (.block row rows results set)
  | exit {docs : List TyDoc} {row : Row} (types : TyDoc.decodeRow registry docs = .ok row) :
      Decodes registry (.exit docs) (.exit row)
  | call {schemeDoc : SchemeDoc} {argDocs : List ArgDoc} {doc : SignatureDoc} {scheme : Scheme} {args : List Arg}
      {signature : Signature} (function : schemeDoc.decode registry = .ok scheme)
      (typeArgs : ArgDoc.decodeAll registry argDocs = .ok args) (given : doc.decode registry = .ok signature) :
      Decodes registry (.call schemeDoc argDocs doc) (.call scheme args signature)
  | callIndirect {doc : SignatureDoc} {signature : Signature} (given : doc.decode registry = .ok signature) :
      Decodes registry (.callIndirect doc) (.callIndirect signature)
  | loadConstant {doc : TyDoc} {ty : Ty} (typ : doc.decode registry = .ok ty) :
      Decodes registry (.loadConstant doc) (.loadConstant ty)
  | loadFunction {schemeDoc : SchemeDoc} {argDocs : List ArgDoc} {doc : SignatureDoc} {scheme : Scheme}
      {args : List Arg} {signature : Signature} (function : schemeDoc.decode registry = .ok scheme)
      (typeArgs : ArgDoc.decodeAll registry argDocs = .ok args) (given : doc.decode registry = .ok signature) :
      Decodes registry (.loadFunction schemeDoc argDocs doc) (.loadFunction scheme args signature)
  | tag {variants : List (List TyDoc)} {rows : List Row} (sumRows : TyDoc.decodeRows registry variants = .ok rows)
      (index : Fin rows.length) : Decodes registry (.tag index.val variants) (.tag rows index)
  | lift {docs : List TyDoc} {row : Row} {extension : String} (types : TyDoc.decodeRow registry docs = .ok row) :
      Decodes registry (.lift docs extension) (.lift row extension)
  | makeTuple {docs : List TyDoc} {row : Row} (types : TyDoc.decodeRow registry docs = .ok row) :
      Decodes registry (.makeTuple docs) (.makeTuple row)
  | unpackTuple {docs : List TyDoc} {row : Row} (types : TyDoc.decodeRow registry docs = .ok row) :
      Decodes registry (.unpackTuple docs) (.unpackTuple row)
  | noop {doc : TyDoc} {ty : Ty} (typ : doc.decode registry = .ok ty) : Decodes registry (.noop doc) (.noop ty)
  | extension {owner name : String} {argDocs : List ArgDoc} {args : List Arg} {op : Op}
      (typeArgs : ArgDoc.decodeAll registry argDocs = .ok args)
      (made : registry.instantiateOp owner name args = .ok op) : Decodes registry (.extension owner name argDocs) op

theorem OpDoc.Decodes.of_decode {doc : OpDoc} {op : Op} (decoded : doc.decode registry = .ok op) :
    doc.Decodes registry op := by
  cases doc with
  | moduleRoot =>
    cases decoded
    exact .moduleRoot
  | funcDefn | funcDecl | input | output | exit | callIndirect | loadConstant | lift | makeTuple | unpackTuple | noop =>
    obtain ⟨part, read, made⟩ := bind_eq_ok_iff.1 decoded
    cases made
    constructor
    exact read
  | const =>
    obtain ⟨value, readValue, decoded⟩ := bind_eq_ok_iff.1 decoded
    obtain ⟨ty, readTy, made⟩ := bind_eq_ok_iff.1 decoded
    cases made
    exact .const readValue readTy
  | dfg | branch | cfg | call | loadFunction =>
    obtain ⟨first, readFirst, decoded⟩ := bind_eq_ok_iff.1 decoded
    obtain ⟨second, readSecond, decoded⟩ := bind_eq_ok_iff.1 decoded
    obtain ⟨third, readThird, made⟩ := bind_eq_ok_iff.1 decoded
    cases made
    constructor
    · exact readFirst
    · exact readSecond
    · exact readThird
  | conditional | tailLoop | block =>
    obtain ⟨first, readFirst, decoded⟩ := bind_eq_ok_iff.1 decoded
    obtain ⟨second, readSecond, decoded⟩ := bind_eq_ok_iff.1 decoded
    obtain ⟨third, readThird, decoded⟩ := bind_eq_ok_iff.1 decoded
    obtain ⟨set, readDelta, made⟩ := bind_eq_ok_iff.1 decoded
    cases made
    constructor
    · exact readFirst
    · exact readSecond
    · exact readThird
    · exact readDelta
  | tag =>
    obtain ⟨rows, read, made⟩ := bind_eq_ok_iff.1 decoded
    obtain ⟨index, rfl, rfl⟩ := Op.tagAt_eq_ok_iff.1 made
    exact .tag read index
  | extension =>
    obtain ⟨args, read, made⟩ := bind_eq_ok_iff.1 decoded
    exact .extension read made

/-- An operation is decoded exactly if its parts are. -/
theorem OpDoc.decode_eq_ok_iff {doc : OpDoc} {op : Op} : doc.decode registry = .ok op ↔ doc.Decodes registry op := by
  refine ⟨.of_decode, fun decodes => ?_⟩
  cases decodes with
  | moduleRoot => rfl
  | funcDefn read | funcDecl read | input read | output read | exit read | callIndirect read | loadConstant read
  | lift read | makeTuple read | unpackTuple read | noop read => exact bind_eq_ok_iff.2 ⟨_, read, rfl⟩
  | const value typ => exact bind_eq_ok_iff.2 ⟨_, value, bind_eq_ok_iff.2 ⟨_, typ, rfl⟩⟩
  | dfg first second third | branch first second third | cfg first second third | call first second third
  | loadFunction first second third =>
    exact bind_eq_ok_iff.2 ⟨_, first, bind_eq_ok_iff.2 ⟨_, second, bind_eq_ok_iff.2 ⟨_, third, rfl⟩⟩⟩
  | conditional first second third delta | tailLoop first second third delta | block first second third delta =>
    refine bind_eq_ok_iff.2 ⟨_, first, bind_eq_ok_iff.2 ⟨_, second, bind_eq_ok_iff.2 ⟨_, third, ?_⟩⟩⟩
    exact bind_eq_ok_iff.2 ⟨_, delta, rfl⟩
  | tag read index => exact bind_eq_ok_iff.2 ⟨_, read, Op.tagAt_eq_ok_iff.2 ⟨index, rfl, rfl⟩⟩
  | extension read made => exact bind_eq_ok_iff.2 ⟨_, read, made⟩

end NestedFlow
