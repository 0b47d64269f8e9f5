import NestedFlow.Proofs.Document.Decoded
import NestedFlow.Proofs.Faults

/-! How resolving a document fails.

The types, constants and operations of a plain document are resolved, or fail with faults of signatures and of
extensions; nothing breaks down but what the definitions of the registry risk.
-/

set_option autoImplicit false

namespace NestedFlow

open Outcome

/-! ### Plain documents

All their numbers have a text, and all entries of sets that have digits only are numbers.
-/

namespace ExtensionSet

/-- Whether an entry is a name, is refused, or is a number that can be read. -/
def isReadable (entry : String) : Bool :=
  !(isNumeral entry && entry.toList.all Text.isDigit) || (Text.natOfDigits? entry.toList).isSome

end ExtensionSet

mutual

def TyDoc.isPlain : TyDoc → Bool
  | .custom _ _ args _ => ArgDoc.arePlain args
  | .sum variants => TyDoc.arePlainRows variants
  | .tuple row => TyDoc.isPlainRow row
  | .function input output reqs =>
    TyDoc.isPlainRow input && TyDoc.isPlainRow output && reqs.all ExtensionSet.isReadable
  | .var index _ => Text.isWritable index

def TyDoc.isPlainRow : List TyDoc → Bool
  | [] => true
  | ty :: rest => ty.isPlain && TyDoc.isPlainRow rest

def TyDoc.arePlainRows : List (List TyDoc) → Bool
  | [] => true
  | row :: rest => TyDoc.isPlainRow row && TyDoc.arePlainRows rest

def ArgDoc.isPlain : ArgDoc → Bool
  | .type ty => ty.isPlain
  | .nat value => Text.isWritable value
  | .string _ => true
  | .extensions entries => entries.all ExtensionSet.isReadable
  | .sequence elems => ArgDoc.arePlain elems
  | .var index param => Text.isWritable index && param.isWritable

def ArgDoc.arePlain : List ArgDoc → Bool
  | [] => true
  | arg :: rest => arg.isPlain && ArgDoc.arePlain rest

end

def SignatureDoc.isPlain (signature : SignatureDoc) : Bool := signature.toTy.isPlain

mutual

def ValueDoc.isPlain : ValueDoc → Bool
  | .sum _ values => ValueDoc.arePlain values
  | .tuple values => ValueDoc.arePlain values
  | .extension typ _ => typ.isPlain

def ValueDoc.arePlain : List ValueDoc → Bool
  | [] => true
  | value :: rest => value.isPlain && ValueDoc.arePlain rest

end

/-- Whether the entries of declared requirements can be read. -/
def isPlainDelta (delta : Option (List String)) : Bool := delta.all fun entries => entries.all ExtensionSet.isReadable

def OpDoc.isPlain : OpDoc → Bool
  | .moduleRoot => true
  | .funcDefn _ signature | .funcDecl _ signature => signature.body.isPlain
  | .const value typ => value.isPlain && typ.isPlain
  | .input types | .output types | .exit types | .lift types _ | .makeTuple types | .unpackTuple types =>
    TyDoc.isPlainRow types
  | .dfg inputs outputs delta | .branch inputs outputs delta | .cfg inputs outputs delta =>
    TyDoc.isPlainRow inputs && TyDoc.isPlainRow outputs && isPlainDelta delta
  | .conditional sumRows otherInputs outputs delta =>
    TyDoc.arePlainRows sumRows && TyDoc.isPlainRow otherInputs && TyDoc.isPlainRow outputs && isPlainDelta delta
  | .tailLoop justInputs justOutputs rest delta =>
    TyDoc.isPlainRow justInputs && TyDoc.isPlainRow justOutputs && TyDoc.isPlainRow rest && isPlainDelta delta
  | .block inputs sumRows otherOutputs delta =>
    TyDoc.isPlainRow inputs && TyDoc.arePlainRows sumRows && TyDoc.isPlainRow otherOutputs && isPlainDelta delta
  | .call function typeArgs signature | .loadFunction function typeArgs signature =>
    function.body.isPlain && ArgDoc.arePlain typeArgs && signature.isPlain
  | .callIndirect signature => signature.isPlain
  | .loadConstant datatype => datatype.isPlain
  | .tag index variants => TyDoc.arePlainRows variants && Text.isWritable index
  | .noop ty => ty.isPlain
  | .extension _ _ args => ArgDoc.arePlain args

/-! ### Resolving -/

section

variable {allowed : Breakdown → Prop} {registry : Registry}

/-- The fault is reported, or it is a breakdown that is allowed. -/
def Fault.IsResolved (allowed : Breakdown → Prop) (fault : Fault) : Prop :=
  fault.IsReported allowed ∨ ∃ cause, fault = .breakdown cause ∧ allowed cause

abbrev FailsResolved {α : Type} (allowed : Breakdown → Prop) (outcome : Outcome α) : Prop :=
  outcome.FailsOnly fun error => error.fault.IsResolved allowed

/-- Failures are those of resolving, and answers have a property. -/
abbrev Resolves {α : Type} (allowed : Breakdown → Prop) (good : α → Prop) (outcome : Outcome α) : Prop :=
  outcome.Meets good fun error => error.fault.IsResolved allowed

theorem Reports.resolves {α : Type} {good : α → Prop} {outcome : Outcome α} (reports : Reports allowed good outcome) :
    Resolves allowed good outcome := reports.imp fun _ held => .inl held.reported

namespace ExtensionSet

theorem fails_addEntry {set : ExtensionSet} {entry : String} (readable : isReadable entry = false → allowed .value) :
    FailsResolved allowed (set.addEntry (some Text.maxDigits) entry) := by
  rw [addEntry]
  split
  · rename_i numeral
    split
    · rename_i digits
      split
      · exact failsOnly_ok _
      · rename_i unread
        refine failsOnly_fail (.inr ⟨.value, rfl, readable ?_⟩)
        rw [isReadable, isNumeral, numeral, digits, Text.natOfDigits?, unread]
        rfl
    · exact failsOnly_fail (.inl harmless_nil)
  · exact failsOnly_ok _

theorem resolves_ofStrings {entries : List String} (readable : entries.all isReadable = false → allowed .value) :
    Resolves allowed (fun set => Harmless allowed set.risks) (ofStrings entries) := by
  refine ⟨fun set read => harmless_risks.2 fun index mem => harmless_riskUnless.2 fun unwritable => ?_, ?_⟩
  · rw [((isNamed_of_ofStrings read).indices index mem).2] at unwritable
    cases unwritable
  · refine (meets_foldlM (fun _ => True) (fun set entry mem _ => ⟨fun _ _ => trivial, ?_⟩) trivial).2
    refine fails_addEntry fun unreadable => readable ?_
    rw [List.all_eq_false]
    exact ⟨entry, mem, by rw [unreadable]; exact Bool.false_ne_true⟩

end ExtensionSet

mutual

theorem TyDoc.resolves_decode (sound : registry.Sound allowed) :
    ∀ doc : TyDoc, (doc.isPlain = false → allowed .value) →
      Resolves allowed (fun ty => Harmless allowed ty.risks) (doc.decode registry)
  | .custom extension id args bound => by
    intro plain
    rw [TyDoc.isPlain] at plain
    rw [TyDoc.decode]
    exact (ArgDoc.resolves_decodeAll sound args plain).bind fun _ safe => (sound.reports_instantiateType safe).resolves
  | .sum variants => by
    intro plain
    rw [TyDoc.isPlain] at plain
    rw [TyDoc.decode]
    exact (TyDoc.resolves_decodeRows sound variants plain).bind fun _ safe => meets_ok safe
  | .tuple row => by
    intro plain
    rw [TyDoc.isPlain] at plain
    rw [TyDoc.decode]
    exact (TyDoc.resolves_decodeRow sound row plain).bind fun _ safe => meets_ok safe
  | .function input output reqs => by
    intro plain
    rw [TyDoc.isPlain, allowed_of_and, allowed_of_and] at plain
    rw [TyDoc.decode]
    refine (TyDoc.resolves_decodeRow sound input plain.1.1).bind fun newInput inputSafe => ?_
    refine (TyDoc.resolves_decodeRow sound output plain.1.2).bind fun newOutput outputSafe => ?_
    refine (ExtensionSet.resolves_ofStrings plain.2).bind fun newReqs reqsSafe => meets_ok ?_
    rw [Ty.risks, harmless_append, harmless_append]
    exact ⟨⟨inputSafe, outputSafe⟩, reqsSafe⟩
  | .var index bound => by
    intro plain
    rw [TyDoc.isPlain] at plain
    have written : Harmless allowed (Text.risks index) := harmless_riskUnless.2 plain
    rw [TyDoc.decode]
    exact meets_ok written

theorem TyDoc.resolves_decodeRow (sound : registry.Sound allowed) :
    ∀ row : List TyDoc, (TyDoc.isPlainRow row = false → allowed .value) →
      Resolves allowed (fun new => Harmless allowed (Row.risks new)) (TyDoc.decodeRow registry row)
  | [] => fun _ => meets_ok harmless_nil
  | ty :: rest => by
    intro plain
    rw [TyDoc.isPlainRow, allowed_of_and] at plain
    rw [TyDoc.decodeRow]
    refine (TyDoc.resolves_decode sound ty plain.1).bind fun newTy tySafe => ?_
    refine (TyDoc.resolves_decodeRow sound rest plain.2).bind fun newRest restSafe => meets_ok ?_
    rw [Row.risks, harmless_append]
    exact ⟨tySafe, restSafe⟩

theorem TyDoc.resolves_decodeRows (sound : registry.Sound allowed) :
    ∀ rows : List (List TyDoc), (TyDoc.arePlainRows rows = false → allowed .value) →
      Resolves allowed (fun new => Harmless allowed (Row.risksOfAll new)) (TyDoc.decodeRows registry rows)
  | [] => fun _ => meets_ok harmless_nil
  | row :: rest => by
    intro plain
    rw [TyDoc.arePlainRows, allowed_of_and] at plain
    rw [TyDoc.decodeRows]
    refine (TyDoc.resolves_decodeRow sound row plain.1).bind fun newRow rowSafe => ?_
    refine (TyDoc.resolves_decodeRows sound rest plain.2).bind fun newRest restSafe => meets_ok ?_
    rw [Row.risksOfAll, harmless_append]
    exact ⟨rowSafe, restSafe⟩

theorem ArgDoc.resolves_decode (sound : registry.Sound allowed) :
    ∀ doc : ArgDoc, (doc.isPlain = false → allowed .value) →
      Resolves allowed (fun arg => Harmless allowed arg.risks) (doc.decode registry)
  | .type ty => by
    intro plain
    rw [ArgDoc.isPlain] at plain
    rw [ArgDoc.decode]
    exact (TyDoc.resolves_decode sound ty plain).bind fun _ safe => meets_ok safe
  | .nat value => by
    intro plain
    rw [ArgDoc.isPlain] at plain
    have written : Harmless allowed (Text.risks value) := harmless_riskUnless.2 plain
    rw [ArgDoc.decode]
    exact meets_ok written
  | .string _ => fun _ => meets_ok harmless_nil
  | .extensions entries => by
    intro plain
    rw [ArgDoc.isPlain] at plain
    rw [ArgDoc.decode]
    exact (ExtensionSet.resolves_ofStrings plain).bind fun _ safe => meets_ok safe
  | .sequence elems => by
    intro plain
    rw [ArgDoc.isPlain] at plain
    rw [ArgDoc.decode]
    exact (ArgDoc.resolves_decodeAll sound elems plain).bind fun _ safe => meets_ok safe
  | .var index param => by
    intro plain
    rw [ArgDoc.isPlain, allowed_of_and] at plain
    have written : Harmless allowed (Text.risks index) := harmless_riskUnless.2 plain.1
    have writtenParam : Harmless allowed param.risks := harmless_riskUnless.2 plain.2
    rw [ArgDoc.decode]
    exact meets_ok (harmless_append.2 ⟨written, writtenParam⟩)

theorem ArgDoc.resolves_decodeAll (sound : registry.Sound allowed) :
    ∀ args : List ArgDoc, (ArgDoc.arePlain args = false → allowed .value) →
      Resolves allowed (fun new => Harmless allowed (Arg.risksOfAll new)) (ArgDoc.decodeAll registry args)
  | [] => fun _ => meets_ok harmless_nil
  | arg :: rest => by
    intro plain
    rw [ArgDoc.arePlain, allowed_of_and] at plain
    rw [ArgDoc.decodeAll]
    refine (ArgDoc.resolves_decode sound arg plain.1).bind fun newArg argSafe => ?_
    refine (ArgDoc.resolves_decodeAll sound rest plain.2).bind fun newRest restSafe => meets_ok ?_
    rw [Arg.risksOfAll, harmless_append]
    exact ⟨argSafe, restSafe⟩

end

theorem SignatureDoc.fails_decode (sound : registry.Sound allowed) {doc : SignatureDoc}
    (plain : doc.isPlain = false → allowed .value) : FailsResolved allowed (doc.decode registry) := by
  rw [SignatureDoc.isPlain, SignatureDoc.toTy, TyDoc.isPlain, allowed_of_and, allowed_of_and] at plain
  rw [SignatureDoc.decode]
  exact (TyDoc.resolves_decodeRow sound _ plain.1.1).2.bind fun _ =>
    (TyDoc.resolves_decodeRow sound _ plain.1.2).2.bind fun _ =>
      (ExtensionSet.resolves_ofStrings plain.2).2.bind fun _ => failsOnly_ok _

theorem SchemeDoc.fails_decode (sound : registry.Sound allowed) {doc : SchemeDoc}
    (plain : doc.body.isPlain = false → allowed .value) : FailsResolved allowed (doc.decode registry) := by
  rw [SchemeDoc.decode]
  exact (SignatureDoc.fails_decode sound plain).bind fun _ => failsOnly_ok _

mutual

theorem ValueDoc.fails_decode (sound : registry.Sound allowed) :
    ∀ doc : ValueDoc, (doc.isPlain = false → allowed .value) → FailsResolved allowed (doc.decode registry)
  | .sum tag values => by
    intro plain
    rw [ValueDoc.isPlain] at plain
    rw [ValueDoc.decode]
    exact (ValueDoc.fails_decodeAll sound values plain).bind fun _ => failsOnly_ok _
  | .tuple values => by
    intro plain
    rw [ValueDoc.isPlain] at plain
    rw [ValueDoc.decode]
    exact (ValueDoc.fails_decodeAll sound values plain).bind fun _ => failsOnly_ok _
  | .extension typ payload => by
    intro plain
    rw [ValueDoc.isPlain] at plain
    rw [ValueDoc.decode]
    exact (TyDoc.resolves_decode sound typ plain).2.bind fun _ => failsOnly_ok _

theorem ValueDoc.fails_decodeAll (sound : registry.Sound allowed) :
    ∀ values : List ValueDoc, (ValueDoc.arePlain values = false → allowed .value) →
      FailsResolved allowed (ValueDoc.decodeAll registry values)
  | [] => fun _ => failsOnly_ok []
  | value :: rest => by
    intro plain
    rw [ValueDoc.arePlain, allowed_of_and] at plain
    rw [ValueDoc.decodeAll]
    exact (ValueDoc.fails_decode sound value plain.1).bind fun _ =>
      (ValueDoc.fails_decodeAll sound rest plain.2).bind fun _ => failsOnly_ok _

end

theorem fails_decodeDelta {delta : Option (List String)} (plain : isPlainDelta delta = false → allowed .value) :
    FailsResolved allowed (decodeDelta delta) := by
  cases delta with
  | none => exact failsOnly_ok none
  | some entries => exact (ExtensionSet.resolves_ofStrings plain).2.bind fun _ => failsOnly_ok _

theorem fails_tagAt {tag : Int} {variants : List Row} (written : Text.isWritable tag = false → allowed .value) :
    FailsResolved allowed (Op.tagAt tag variants) := by
  rw [Op.tagAt]
  split
  · exact failsOnly_ok _
  · exact failsOnly_fail (.inl (harmless_riskUnless.2 written))

theorem OpDoc.fails_decode (sound : registry.Sound allowed) (doc : OpDoc)
    (plain : doc.isPlain = false → allowed .value) : FailsResolved allowed (doc.decode registry) := by
  have row : ∀ types, (TyDoc.isPlainRow types = false → allowed .value) →
      FailsResolved allowed (TyDoc.decodeRow registry types) :=
    fun types fine => (TyDoc.resolves_decodeRow sound types fine).2
  have rows : ∀ variants, (TyDoc.arePlainRows variants = false → allowed .value) →
      FailsResolved allowed (TyDoc.decodeRows registry variants) :=
    fun variants fine => (TyDoc.resolves_decodeRows sound variants fine).2
  have args : ∀ typeArgs, (ArgDoc.arePlain typeArgs = false → allowed .value) →
      FailsResolved allowed (ArgDoc.decodeAll registry typeArgs) :=
    fun typeArgs fine => (ArgDoc.resolves_decodeAll sound typeArgs fine).2
  cases doc with
  | moduleRoot => exact failsOnly_ok Op.moduleRoot
  | funcDefn name signature | funcDecl name signature =>
    exact (SchemeDoc.fails_decode sound plain).bind fun _ => failsOnly_ok _
  | const value typ =>
    rw [OpDoc.isPlain, allowed_of_and] at plain
    exact (ValueDoc.fails_decode sound value plain.1).bind fun _ =>
      (TyDoc.resolves_decode sound typ plain.2).2.bind fun _ => failsOnly_ok _
  | input types | output types | exit types | lift types | makeTuple types | unpackTuple types =>
    exact (row types plain).bind fun _ => failsOnly_ok _
  | dfg inputs outputs delta | branch inputs outputs delta | cfg inputs outputs delta =>
    rw [OpDoc.isPlain, allowed_of_and, allowed_of_and] at plain
    exact (row inputs plain.1.1).bind fun _ => (row outputs plain.1.2).bind fun _ =>
      (fails_decodeDelta plain.2).bind fun _ => failsOnly_ok _
  | conditional sumRows otherInputs outputs delta =>
    rw [OpDoc.isPlain, allowed_of_and, allowed_of_and, allowed_of_and] at plain
    exact (rows sumRows plain.1.1.1).bind fun _ => (row otherInputs plain.1.1.2).bind fun _ =>
      (row outputs plain.1.2).bind fun _ => (fails_decodeDelta plain.2).bind fun _ => failsOnly_ok _
  | tailLoop justInputs justOutputs rest delta =>
    rw [OpDoc.isPlain, allowed_of_and, allowed_of_and, allowed_of_and] at plain
    exact (row justInputs plain.1.1.1).bind fun _ => (row justOutputs plain.1.1.2).bind fun _ =>
      (row rest plain.1.2).bind fun _ => (fails_decodeDelta plain.2).bind fun _ => failsOnly_ok _
  | block inputs sumRows otherOutputs delta =>
    rw [OpDoc.isPlain, allowed_of_and, allowed_of_and, allowed_of_and] at plain
    exact (row inputs plain.1.1.1).bind fun _ => (rows sumRows plain.1.1.2).bind fun _ =>
      (row otherOutputs plain.1.2).bind fun _ => (fails_decodeDelta plain.2).bind fun _ => failsOnly_ok _
  | call function typeArgs signature | loadFunction function typeArgs signature =>
    rw [OpDoc.isPlain, allowed_of_and, allowed_of_and] at plain
    exact (SchemeDoc.fails_decode sound plain.1.1).bind fun _ => (args typeArgs plain.1.2).bind fun _ =>
      (SignatureDoc.fails_decode sound plain.2).bind fun _ => failsOnly_ok _
  | callIndirect signature => exact (SignatureDoc.fails_decode sound plain).bind fun _ => failsOnly_ok _
  | loadConstant ty | noop ty => exact (TyDoc.resolves_decode sound ty plain).2.bind fun _ => failsOnly_ok _
  | tag index variants =>
    rw [OpDoc.isPlain, allowed_of_and] at plain
    exact (rows variants plain.1).bind fun _ => fails_tagAt plain.2
  | extension owner name typeArgs =>
    exact (ArgDoc.resolves_decodeAll sound typeArgs plain).failsOnly_bind fun _ safe =>
      (sound.fails_instantiateOp safe).imp fun _ => .inl

end

end NestedFlow
