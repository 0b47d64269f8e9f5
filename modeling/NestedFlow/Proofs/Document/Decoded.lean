import NestedFlow.Extension.Standard
import NestedFlow.Proofs.Document.Resolution
import NestedFlow.Proofs.Table

/-! What decoding gives is resolved.

Definitions of a registry carry the names under which they are found, because the members of an extension and the
extensions of a registry are added one by one. An instance that decoding has made is therefore found again under its
own names, and the sets of extensions that were read are recovered from their texts, whatever was written for them.
-/

set_option autoImplicit false

namespace NestedFlow

/-! ### Definitions under their own names -/

/-- An extension that was created and given its members one by one. -/
inductive Extension.Constructed : Extension → Prop where
  | create {name version description : String} {reqs : ExtensionSet} {extension : Extension}
      (created : Extension.create name version reqs description = .ok extension) : Constructed extension
  | addType {extension new : Extension} {name description : String} {params : List Param} {bound : BoundRule}
      (constructed : Constructed extension) (added : extension.addType name params description bound = .ok new) :
      Constructed new
  | addOp {extension new : Extension} {name description : String} {rule : SignatureRule} {misc : List (String × Json)}
      (constructed : Constructed extension) (added : extension.addOp name rule description misc = .ok new) :
      Constructed new
  | addValue {extension new : Extension} {name : String} {value : Value} {typ : Ty}
      (constructed : Constructed extension) (added : extension.addValue name value typ = .ok new) : Constructed new

/-- A registry whose extensions were constructed and registered one by one. -/
inductive Registry.Constructed : Registry → Prop where
  | empty : Constructed ∅
  | register {registry new : Registry} {extension : Extension} (constructed : Constructed registry)
      (member : extension.Constructed) (registered : registry.register extension = .ok new) : Constructed new

/-- Definitions carry the name of their extension and the name under which they are stored. -/
structure Extension.WellNamed (extension : Extension) : Prop where
  types : ∀ name definition, extension.types.get? name = some definition →
    definition.extension = extension.name ∧ definition.name = name
  operations : ∀ name definition, extension.operations.get? name = some definition →
    definition.extension = extension.name ∧ definition.name = name

def Registry.WellNamed (registry : Registry) : Prop :=
  ∀ name extension, registry.extensions.get? name = some extension → extension.name = name ∧ extension.WellNamed

theorem Extension.Constructed.wellNamed {extension : Extension} (constructed : extension.Constructed) :
    extension.WellNamed := by
  induction constructed with
  | create created =>
    rw [Extension.create] at created
    split at created
    · cases created
      exact ⟨fun _ _ found => (nomatch found), fun _ _ found => (nomatch found)⟩
    · cases created
  | addType _ added ih =>
    obtain ⟨_, -, made⟩ := Outcome.bind_eq_ok_iff.1 added
    cases made
    refine ⟨fun other definition found => ?_, ih.operations⟩
    rw [Table.get?_insert_eq] at found
    split at found
    · rename_i same
      cases found
      exact ⟨rfl, same.symm⟩
    · exact ih.types other definition found
  | addOp _ added ih =>
    obtain ⟨_, -, made⟩ := Outcome.bind_eq_ok_iff.1 added
    cases made
    refine ⟨ih.types, fun other definition found => ?_⟩
    rw [Table.get?_insert_eq] at found
    split at found
    · rename_i same
      cases found
      exact ⟨rfl, same.symm⟩
    · exact ih.operations other definition found
  | addValue _ added ih =>
    obtain ⟨_, -, more⟩ := Outcome.bind_eq_ok_iff.1 added
    obtain ⟨_, -, made⟩ := Outcome.bind_eq_ok_iff.1 more
    cases made
    exact ⟨ih.types, ih.operations⟩

theorem Registry.Constructed.wellNamed {registry : Registry} (constructed : registry.Constructed) :
    registry.WellNamed := by
  induction constructed with
  | empty => exact fun _ _ found => nomatch found
  | register _ member registered ih =>
    rw [Registry.register] at registered
    split at registered
    · cases registered
    · cases registered
      intro name extension found
      rw [Table.get?_insert_eq] at found
      split at found
      · rename_i same
        cases found
        exact ⟨same.symm, member.wellNamed⟩
      · exact ih name extension found

namespace Standard

theorem constructed_prelude : prelude.Constructed := by
  have built : (do
      let extension ← Extension.create "prelude" "0.1.0" ∅ "Types shared by all programs"
      let extension ← extension.addType "usize" [] "Non-negative machine integer" (.fixed .copyable)
      let extension ← extension.addType "qubit" [] "A quantum bit" (.fixed .linear)
      extension.addType "error" [] "Simple opaque error type" (.fixed .copyable)) = .ok prelude := rfl
  obtain ⟨_, created, built⟩ := Outcome.bind_eq_ok_iff.1 built
  obtain ⟨_, first, built⟩ := Outcome.bind_eq_ok_iff.1 built
  obtain ⟨_, second, third⟩ := Outcome.bind_eq_ok_iff.1 built
  exact .addType (.addType (.addType (.create created) first) second) third

theorem constructed_logic : logic.Constructed := by
  have built : (do
      let extension ← Extension.create "logic" "0.1.0" ∅ "Basic logical operations"
      let extension ← extension.addOp "And" (.computed naryRule) "logical 'and'" []
      let extension ← extension.addOp "Or" (.computed naryRule) "logical 'or'" []
      let extension ← extension.addOp "Not" (.fixed (.mono (.endo [bool] ∅))) "logical 'not'" []
      let extension ← extension.addValue "FALSE" (.unit 0) bool
      extension.addValue "TRUE" (.unit 1) bool) = .ok logic := rfl
  obtain ⟨_, created, built⟩ := Outcome.bind_eq_ok_iff.1 built
  obtain ⟨_, first, built⟩ := Outcome.bind_eq_ok_iff.1 built
  obtain ⟨_, second, built⟩ := Outcome.bind_eq_ok_iff.1 built
  obtain ⟨_, third, built⟩ := Outcome.bind_eq_ok_iff.1 built
  obtain ⟨_, fourth, fifth⟩ := Outcome.bind_eq_ok_iff.1 built
  exact .addValue (.addValue (.addOp (.addOp (.addOp (.create created) first) second) third) fourth) fifth

end Standard

namespace Registry

/-- The registries that come with the library are constructed like any other. -/
theorem constructed_prelude : prelude.Constructed := .register .empty Standard.constructed_prelude rfl

theorem constructed_logic : logic.Constructed := constructed_prelude.register Standard.constructed_logic rfl

variable {registry : Registry} {extension name : String} {args : List Arg}

theorem get_eq_ok_iff {found : Extension} :
    registry.get name = .ok found ↔ registry.extensions.get? name = some found := by
  rw [get]
  cases registry.extensions.get? name <;> simp [fail]

namespace WellNamed

theorem names_of_getType (named : registry.WellNamed) {definition : TypeDef}
    (found : registry.getType extension name = .ok definition) :
    definition.extension = extension ∧ definition.name = name := by
  obtain ⟨owner, isOwner, isMember⟩ := Outcome.bind_eq_ok_iff.1 found
  obtain ⟨ownName, members⟩ := named extension owner (get_eq_ok_iff.1 isOwner)
  split at isMember
  · rename_i defined
    cases isMember
    rw [← ownName]
    exact members.types name definition defined
  · cases isMember

theorem names_of_getOp (named : registry.WellNamed) {definition : OpDef}
    (found : registry.getOp extension name = .ok definition) :
    definition.extension = extension ∧ definition.name = name := by
  obtain ⟨owner, isOwner, isMember⟩ := Outcome.bind_eq_ok_iff.1 found
  obtain ⟨ownName, members⟩ := named extension owner (get_eq_ok_iff.1 isOwner)
  split at isMember
  · rename_i defined
    cases isMember
    rw [← ownName]
    exact members.operations name definition defined
  · cases isMember

/-- An instance of a type definition has the names under which the definition was found, and the given arguments. -/
theorem exists_of_instantiateType (named : registry.WellNamed) {ty : Ty}
    (made : registry.instantiateType extension name args = .ok ty) :
    ∃ bound boundFrom, ty = .custom extension name args bound boundFrom := by
  obtain ⟨definition, found, made⟩ := Outcome.bind_eq_ok_iff.1 made
  obtain ⟨_, -, made⟩ := Outcome.bind_eq_ok_iff.1 made
  obtain ⟨bound, -, made⟩ := Outcome.bind_eq_ok_iff.1 made
  obtain ⟨ofExtension, ofName⟩ := named.names_of_getType found
  rw [ofExtension, ofName] at made
  cases from? : definition.boundFrom? with
  | none =>
    rw [from?] at made
    cases made
    exact ⟨_, _, rfl⟩
  | some positions =>
    rw [from?] at made
    obtain ⟨derived, -, made⟩ := Outcome.bind_eq_ok_iff.1 made
    cases made
    exact ⟨_, _, rfl⟩

/-- So does an operation. -/
theorem exists_of_instantiateOp (named : registry.WellNamed) {op : Op}
    (made : registry.instantiateOp extension name args = .ok op) :
    ∃ signature, op = .extension extension name args signature := by
  obtain ⟨definition, found, made⟩ := Outcome.bind_eq_ok_iff.1 made
  obtain ⟨signature, -, made⟩ := Outcome.bind_eq_ok_iff.1 made
  obtain ⟨ofExtension, ofName⟩ := named.names_of_getOp found
  cases made
  exact ⟨signature, by rw [ofExtension, ofName]⟩

end WellNamed

end Registry

/-! ### Decoded parts -/

variable {registry : Registry}

mutual

theorem TyDoc.resolved_of_decode (named : registry.WellNamed) : ∀ {doc : TyDoc} {ty : Ty},
    doc.decode registry = .ok ty → ty.Resolved registry
  | .custom _ _ _ _, ty, decoded => by
    rw [TyDoc.decode] at decoded
    obtain ⟨args, read, made⟩ := Outcome.bind_eq_ok_iff.1 decoded
    obtain ⟨bound, boundFrom, rfl⟩ := named.exists_of_instantiateType made
    rw [Ty.Resolved]
    exact ⟨ArgDoc.resolved_of_decodeAll named read, made⟩
  | .sum _, _, decoded => by
    rw [TyDoc.decode] at decoded
    obtain ⟨variants, read, made⟩ := Outcome.bind_eq_ok_iff.1 decoded
    cases made
    rw [Ty.Resolved]
    exact TyDoc.resolved_of_decodeRows named read
  | .tuple _, _, decoded => by
    rw [TyDoc.decode] at decoded
    obtain ⟨row, read, made⟩ := Outcome.bind_eq_ok_iff.1 decoded
    cases made
    rw [Ty.Resolved]
    exact TyDoc.resolved_of_decodeRow named read
  | .function _ _ _, _, decoded => by
    rw [TyDoc.decode] at decoded
    obtain ⟨input, readInput, decoded⟩ := Outcome.bind_eq_ok_iff.1 decoded
    obtain ⟨output, readOutput, decoded⟩ := Outcome.bind_eq_ok_iff.1 decoded
    obtain ⟨reqs, readReqs, made⟩ := Outcome.bind_eq_ok_iff.1 decoded
    cases made
    rw [Ty.Resolved]
    exact ⟨TyDoc.resolved_of_decodeRow named readInput, TyDoc.resolved_of_decodeRow named readOutput,
      ExtensionSet.isNamed_of_ofStrings readReqs⟩
  | .var _ _, _, decoded => by
    rw [TyDoc.decode] at decoded
    cases decoded
    rw [Ty.Resolved]
    trivial

theorem TyDoc.resolved_of_decodeRow (named : registry.WellNamed) : ∀ {docs : List TyDoc} {row : List Ty},
    TyDoc.decodeRow registry docs = .ok row → Row.Resolved registry row
  | [], _, decoded => by
    rw [TyDoc.decodeRow] at decoded
    cases decoded
    rw [Row.Resolved]
    trivial
  | _ :: _, _, decoded => by
    rw [TyDoc.decodeRow] at decoded
    obtain ⟨ty, first, decoded⟩ := Outcome.bind_eq_ok_iff.1 decoded
    obtain ⟨rest, others, made⟩ := Outcome.bind_eq_ok_iff.1 decoded
    cases made
    rw [Row.Resolved]
    exact ⟨TyDoc.resolved_of_decode named first, TyDoc.resolved_of_decodeRow named others⟩

theorem TyDoc.resolved_of_decodeRows (named : registry.WellNamed) : ∀ {docs : List (List TyDoc)}
    {rows : List (List Ty)}, TyDoc.decodeRows registry docs = .ok rows → Row.AllResolved registry rows
  | [], _, decoded => by
    rw [TyDoc.decodeRows] at decoded
    cases decoded
    rw [Row.AllResolved]
    trivial
  | _ :: _, _, decoded => by
    rw [TyDoc.decodeRows] at decoded
    obtain ⟨row, first, decoded⟩ := Outcome.bind_eq_ok_iff.1 decoded
    obtain ⟨rest, others, made⟩ := Outcome.bind_eq_ok_iff.1 decoded
    cases made
    rw [Row.AllResolved]
    exact ⟨TyDoc.resolved_of_decodeRow named first, TyDoc.resolved_of_decodeRows named others⟩

theorem ArgDoc.resolved_of_decode (named : registry.WellNamed) : ∀ {doc : ArgDoc} {arg : Arg},
    doc.decode registry = .ok arg → arg.Resolved registry
  | .type _, _, decoded => by
    rw [ArgDoc.decode] at decoded
    obtain ⟨ty, read, made⟩ := Outcome.bind_eq_ok_iff.1 decoded
    cases made
    rw [Arg.Resolved]
    exact TyDoc.resolved_of_decode named read
  | .extensions _, _, decoded => by
    rw [ArgDoc.decode] at decoded
    obtain ⟨set, read, made⟩ := Outcome.bind_eq_ok_iff.1 decoded
    cases made
    rw [Arg.Resolved]
    exact ExtensionSet.isNamed_of_ofStrings read
  | .sequence _, _, decoded => by
    rw [ArgDoc.decode] at decoded
    obtain ⟨elems, read, made⟩ := Outcome.bind_eq_ok_iff.1 decoded
    cases made
    rw [Arg.Resolved]
    exact ArgDoc.resolved_of_decodeAll named read
  | .nat _, _, decoded | .string _, _, decoded | .var _ _, _, decoded => by
    rw [ArgDoc.decode] at decoded
    cases decoded
    rw [Arg.Resolved]
    trivial

theorem ArgDoc.resolved_of_decodeAll (named : registry.WellNamed) : ∀ {docs : List ArgDoc} {args : List Arg},
    ArgDoc.decodeAll registry docs = .ok args → Arg.AllResolved registry args
  | [], _, decoded => by
    rw [ArgDoc.decodeAll] at decoded
    cases decoded
    rw [Arg.AllResolved]
    trivial
  | _ :: _, _, decoded => by
    rw [ArgDoc.decodeAll] at decoded
    obtain ⟨arg, first, decoded⟩ := Outcome.bind_eq_ok_iff.1 decoded
    obtain ⟨rest, others, made⟩ := Outcome.bind_eq_ok_iff.1 decoded
    cases made
    rw [Arg.AllResolved]
    exact ⟨ArgDoc.resolved_of_decode named first, ArgDoc.resolved_of_decodeAll named others⟩

end

mutual

theorem ValueDoc.resolved_of_decode (named : registry.WellNamed) : ∀ {doc : ValueDoc} {value : Value},
    doc.decode registry = .ok value → value.Resolved registry
  | .sum _ _, _, decoded | .tuple _, _, decoded => by
    rw [ValueDoc.decode] at decoded
    obtain ⟨values, read, made⟩ := Outcome.bind_eq_ok_iff.1 decoded
    cases made
    rw [Value.Resolved]
    exact ValueDoc.resolved_of_decodeAll named read
  | .extension _ _, _, decoded => by
    rw [ValueDoc.decode] at decoded
    obtain ⟨typ, read, made⟩ := Outcome.bind_eq_ok_iff.1 decoded
    cases made
    rw [Value.Resolved]
    exact TyDoc.resolved_of_decode named read

theorem ValueDoc.resolved_of_decodeAll (named : registry.WellNamed) : ∀ {docs : List ValueDoc} {values : List Value},
    ValueDoc.decodeAll registry docs = .ok values → Value.AllResolved registry values
  | [], _, decoded => by
    rw [ValueDoc.decodeAll] at decoded
    cases decoded
    rw [Value.AllResolved]
    trivial
  | _ :: _, _, decoded => by
    rw [ValueDoc.decodeAll] at decoded
    obtain ⟨value, first, decoded⟩ := Outcome.bind_eq_ok_iff.1 decoded
    obtain ⟨rest, others, made⟩ := Outcome.bind_eq_ok_iff.1 decoded
    cases made
    rw [Value.AllResolved]
    exact ⟨ValueDoc.resolved_of_decode named first, ValueDoc.resolved_of_decodeAll named others⟩

end

variable (named : registry.WellNamed)

include named

theorem SignatureDoc.resolved_of_decode {doc : SignatureDoc} {signature : Signature}
    (decoded : doc.decode registry = .ok signature) : signature.Resolved registry := by
  obtain ⟨input, output, reqs⟩ := SignatureDoc.decode_eq_ok_iff.1 decoded
  exact ⟨TyDoc.resolved_of_decodeRow named input, TyDoc.resolved_of_decodeRow named output,
    ExtensionSet.isNamed_of_ofStrings reqs⟩

theorem SchemeDoc.resolved_of_decode {doc : SchemeDoc} {scheme : Scheme} (decoded : doc.decode registry = .ok scheme) :
    scheme.Resolved registry :=
  SignatureDoc.resolved_of_decode named (SchemeDoc.decode_eq_ok_iff.1 decoded).2

omit named in
theorem deltaNamed_of_decodeDelta {entries : Option (List String)} {delta : Option ExtensionSet}
    (decoded : decodeDelta entries = .ok delta) : DeltaNamed delta := by
  intro set same
  cases entries with
  | none =>
    cases decoded
    cases same
  | some entries =>
    obtain ⟨read, isRead, made⟩ := Outcome.bind_eq_ok_iff.1 decoded
    cases made
    cases same
    exact ExtensionSet.isNamed_of_ofStrings isRead

/-- Every operation that is decoded is resolved. -/
theorem OpDoc.resolved_of_decode {doc : OpDoc} {op : Op} (decoded : doc.decode registry = .ok op) :
    op.Resolved registry := by
  cases OpDoc.decode_eq_ok_iff.1 decoded with
  | moduleRoot => trivial
  | funcDefn signature | funcDecl signature => exact SchemeDoc.resolved_of_decode named signature
  | const constant typ => exact ⟨ValueDoc.resolved_of_decode named constant, TyDoc.resolved_of_decode named typ⟩
  | input types | output types | exit types | lift types | makeTuple types | unpackTuple types =>
    exact TyDoc.resolved_of_decodeRow named types
  | dfg inputs outputs delta | branch inputs outputs delta | cfg inputs outputs delta =>
    exact ⟨TyDoc.resolved_of_decodeRow named inputs, TyDoc.resolved_of_decodeRow named outputs,
      deltaNamed_of_decodeDelta delta⟩
  | conditional sumRows inputs outputs delta =>
    exact ⟨TyDoc.resolved_of_decodeRows named sumRows, TyDoc.resolved_of_decodeRow named inputs,
      TyDoc.resolved_of_decodeRow named outputs, deltaNamed_of_decodeDelta delta⟩
  | tailLoop inputs outputs rest delta =>
    exact ⟨TyDoc.resolved_of_decodeRow named inputs, TyDoc.resolved_of_decodeRow named outputs,
      TyDoc.resolved_of_decodeRow named rest, deltaNamed_of_decodeDelta delta⟩
  | block inputs sumRows outputs delta =>
    exact ⟨TyDoc.resolved_of_decodeRow named inputs, TyDoc.resolved_of_decodeRows named sumRows,
      TyDoc.resolved_of_decodeRow named outputs, deltaNamed_of_decodeDelta delta⟩
  | call function typeArgs given | loadFunction function typeArgs given =>
    exact ⟨SchemeDoc.resolved_of_decode named function, ArgDoc.resolved_of_decodeAll named typeArgs,
      SignatureDoc.resolved_of_decode named given⟩
  | callIndirect given => exact SignatureDoc.resolved_of_decode named given
  | loadConstant typ | noop typ => exact TyDoc.resolved_of_decode named typ
  | tag sumRows index => exact TyDoc.resolved_of_decodeRows named sumRows
  | extension typeArgs made =>
    obtain ⟨signature, rfl⟩ := named.exists_of_instantiateOp made
    exact ⟨ArgDoc.resolved_of_decodeAll named typeArgs, made⟩

end NestedFlow
