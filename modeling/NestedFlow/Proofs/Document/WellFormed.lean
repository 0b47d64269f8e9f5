import NestedFlow.Proofs.Document.Decoded
import NestedFlow.Proofs.Instantiation

/-! Decoded types are well formed.

Decoding makes every custom type from its definition, so all that the validation can find in the result is a variable
that is not declared as it is used. The bounds that a document claims are not even looked at.
-/

set_option autoImplicit false

namespace NestedFlow

open Outcome

/-! ### Variables as they are used -/

/-- The variables in a set of extensions. -/
def ExtensionSet.uses (set : ExtensionSet) : List (Int × Param) :=
  set.indices.toList.map fun index => (index, .extensions)

mutual

/-- The variables in a type, each with the kind that is recorded where it is used. -/
def Ty.uses : Ty → List (Int × Param)
  | .custom _ _ args _ _ => Arg.allUses args
  | .sum variants => Row.allUses variants
  | .tuple row => Row.uses row
  | .function input output reqs => Row.uses input ++ Row.uses output ++ reqs.uses
  | .var index bound => [(index, .type bound)]

def Row.uses : List Ty → List (Int × Param)
  | [] => []
  | ty :: rest => Ty.uses ty ++ Row.uses rest

def Row.allUses : List (List Ty) → List (Int × Param)
  | [] => []
  | row :: rest => Row.uses row ++ Row.allUses rest

def Arg.uses : Arg → List (Int × Param)
  | .type ty => Ty.uses ty
  | .nat _ | .string _ => []
  | .extensions set => set.uses
  | .sequence elems => Arg.allUses elems
  | .var index param => [(index, param)]

def Arg.allUses : List Arg → List (Int × Param)
  | [] => []
  | arg :: rest => Arg.uses arg ++ Arg.allUses rest

end

theorem Row.uses_eq (row : Row) : Row.uses row = row.flatMap Ty.uses := by
  induction row with
  | nil => rfl
  | cons ty rest ih => rw [Row.uses, ih, List.flatMap_cons]

theorem Row.allUses_eq (rows : List Row) : Row.allUses rows = rows.flatMap Row.uses := by
  induction rows with
  | nil => rfl
  | cons row rest ih => rw [Row.allUses, ih, List.flatMap_cons]

theorem Arg.allUses_eq (args : List Arg) : Arg.allUses args = args.flatMap Arg.uses := by
  induction args with
  | nil => rfl
  | cons arg rest ih => rw [Arg.allUses, ih, List.flatMap_cons]

/-- A scope declares a variable with exactly that kind at its position. -/
def Declares (scope : List Param) (use : Int × Param) : Prop := 0 ≤ use.1 ∧ scope[use.1.toNat]? = some use.2

instance (scope : List Param) : DecidablePred (Declares scope) := fun _ => inferInstanceAs (Decidable (_ ∧ _))

variable {registry : Registry} {scope : List Param}

theorem ExtensionSet.validate_iff_declares {set : ExtensionSet} :
    set.validate scope = .ok () ↔ ∀ use ∈ set.uses, Declares scope use := by
  rw [ExtensionSet.validate_eq_ok_iff, ExtensionSet.uses, List.forall_mem_map]
  exact forall₂_congr fun index _ => checkVariable_eq_ok_iff

/-! ### Resolved types -/

theorem Row.resolved_iff {row : Row} : Row.Resolved registry row ↔ ∀ ty ∈ row, ty.Resolved registry := by
  induction row with
  | nil => simp [Row.Resolved]
  | cons ty rest ih => rw [Row.Resolved, ih, List.forall_mem_cons]

theorem Row.allResolved_iff {rows : List Row} :
    Row.AllResolved registry rows ↔ ∀ row ∈ rows, ∀ ty ∈ row, ty.Resolved registry := by
  induction rows with
  | nil => simp [Row.AllResolved]
  | cons row rest ih => rw [Row.AllResolved, Row.resolved_iff, ih, List.forall_mem_cons]

theorem Arg.allResolved_iff {args : List Arg} :
    Arg.AllResolved registry args ↔ ∀ arg ∈ args, arg.Resolved registry := by
  induction args with
  | nil => simp [Arg.AllResolved]
  | cons arg rest ih => rw [Arg.AllResolved, ih, List.forall_mem_cons]

/-- An instance of a definition has arguments that fit it, and the bound that it gives. -/
theorem Registry.exists_definition {extension name : String} {args : List Arg} {bound : Bound}
    {boundFrom : Option (List Int)}
    (made : registry.instantiateType extension name args = .ok (.custom extension name args bound boundFrom)) :
    ∃ definition, registry.getType extension name = .ok definition ∧
      Arg.checkList args definition.params = .ok () ∧ definition.boundFor args = .ok bound ∧
      definition.boundFrom? = boundFrom := by
  obtain ⟨definition, found, made⟩ := bind_eq_ok_iff.1 made
  obtain ⟨_, fits, made⟩ := bind_eq_ok_iff.1 made
  obtain ⟨given, isGiven, made⟩ := bind_eq_ok_iff.1 made
  -- a bound that is taken from the arguments is computed once more, with the same result
  rw [Ty.instance?_eq, definition.recordedBound_eq rfl isGiven, isGiven, ok_bind] at made
  cases made
  exact ⟨definition, found, fits, isGiven, rfl⟩

/-- All that can be wrong with a resolved type in a scope are its variables. -/
theorem validate_iff_declares :
    (∀ ty : Ty, ty.Resolved registry →
      (ty.validate registry scope = .ok () ↔ ∀ use ∈ ty.uses, Declares scope use)) ∧
      ∀ arg : Arg, arg.Resolved registry →
        (arg.validate registry scope = .ok () ↔ ∀ use ∈ arg.uses, Declares scope use) := by
  refine Ty.induction ?custom ?sum ?tuple ?function ?var ?type ?nat ?string ?extensions ?sequence ?argVar
  case custom =>
    intro extension name args bound boundFrom ih resolved
    rw [Ty.Resolved, Arg.allResolved_iff] at resolved
    obtain ⟨parts, made⟩ := resolved
    obtain ⟨definition, found, fits, recorded, rule⟩ := Registry.exists_definition made
    rw [Ty.validate_custom_iff, Ty.uses, Arg.allUses_eq, List.forall_mem_flatMap]
    constructor
    · rintro ⟨-, -, valid, -⟩ arg mem
      exact (ih arg mem (parts arg mem)).1 (valid arg mem)
    · -- the definition, the fit of the arguments and the bound come from the resolution
      intro declared
      exact ⟨definition, found, fun arg mem => (ih arg mem (parts arg mem)).2 (declared arg mem), fits, recorded, rule⟩
  case sum =>
    intro variants ih resolved
    rw [Ty.Resolved, Row.allResolved_iff] at resolved
    rw [Ty.validate, Row.validateAll_eq_ok_iff, Ty.uses, Row.allUses_eq, List.forall_mem_flatMap]
    refine forall₂_congr fun row listed => ?_
    rw [Row.uses_eq, List.forall_mem_flatMap]
    exact forall₂_congr fun ty mem => ih row listed ty mem (resolved row listed ty mem)
  case tuple =>
    intro row ih resolved
    rw [Ty.Resolved, Row.resolved_iff] at resolved
    rw [Ty.validate, Row.validate_eq_ok_iff, Ty.uses, Row.uses_eq, List.forall_mem_flatMap]
    exact forall₂_congr fun ty mem => ih ty mem (resolved ty mem)
  case function =>
    intro input output reqs inputs outputs resolved
    rw [Ty.Resolved, Row.resolved_iff, Row.resolved_iff] at resolved
    obtain ⟨inputResolved, outputResolved, -⟩ := resolved
    rw [Ty.validate_function_iff, Ty.uses, Row.uses_eq, Row.uses_eq, List.forall_mem_append, List.forall_mem_append,
      List.forall_mem_flatMap, List.forall_mem_flatMap, and_assoc, ExtensionSet.validate_iff_declares]
    refine and_congr ?_ (and_congr_left' ?_)
    · exact forall₂_congr fun ty mem => inputs ty mem (inputResolved ty mem)
    · exact forall₂_congr fun ty mem => outputs ty mem (outputResolved ty mem)
  case var =>
    intro index bound _
    rw [Ty.validate, checkVariable_eq_ok_iff, Ty.uses, List.forall_mem_singleton, Declares]
  case type =>
    intro ty ih resolved
    rw [Arg.Resolved] at resolved
    rw [Arg.validate, Arg.uses]
    exact ih resolved
  case nat | string =>
    intro value _
    simp [Arg.validate, Arg.uses]
  case extensions =>
    intro set _
    rw [Arg.validate, Arg.uses, ExtensionSet.validate_iff_declares]
  case sequence =>
    intro elems ih resolved
    rw [Arg.Resolved, Arg.allResolved_iff] at resolved
    rw [Arg.validate, Arg.validateAll_eq_ok_iff, Arg.uses, Arg.allUses_eq, List.forall_mem_flatMap]
    exact forall₂_congr fun elem mem => ih elem mem (resolved elem mem)
  case argVar =>
    intro index param _
    rw [Arg.validate, checkVariable_eq_ok_iff, Arg.uses, List.forall_mem_singleton, Declares]

/-- A decoded type is well formed in exactly the scopes that declare its variables as they are used, whatever bounds
the document claims. -/
theorem TyDoc.validate_decoded_iff {doc : TyDoc} {ty : Ty} (constructed : registry.Constructed)
    (decoded : doc.decode registry = .ok ty) :
    ty.validate registry scope = .ok () ↔ ∀ use ∈ ty.uses, Declares scope use :=
  validate_iff_declares.1 ty (TyDoc.resolved_of_decode constructed.wellNamed decoded)

/-- Arrays beside the types that all programs share. -/
def collected : Registry := ⟨Registry.prelude.extensions.insert "collections" arrays⟩

theorem constructed_collected : collected.Constructed := by
  have built : (do
      let extension ← Extension.create "collections" "0.1.0" ∅ ""
      extension.addType "Array" [.nat none, .type .linear] "" (.fromArgs [1])) = .ok arrays := rfl
  obtain ⟨_, created, added⟩ := bind_eq_ok_iff.1 built
  exact .register Registry.constructed_prelude (.addType (.create created) added) rfl

/-- An array of so many pairs of a qubit and a function, with the claim that both the qubit and the array are
copyable. -/
def smuggling : TyDoc :=
  .custom "collections" "Array" [.var 0 (.nat none),
    .type (.tuple [.custom "prelude" "qubit" [] .copyable, .function [.var 1 .copyable] [] ["2"]])] .copyable

theorem TyDoc.validate_decoded_iff_smuggling :
    ∃ ty, smuggling.decode collected = .ok ty ∧ ty.bound = .linear ∧
      ty.validate collected [.nat none, .type .copyable, .extensions] = .ok () ∧
      ty.validate collected [.nat none, .type .linear, .extensions] ≠ .ok () := by
  obtain ⟨ty, decoded, linear, uses⟩ : ∃ ty, smuggling.decode collected = .ok ty ∧ ty.bound = .linear ∧
      ty.uses = [(0, .nat none), (1, .type .copyable), (2, .extensions)] := ⟨_, rfl, rfl, rfl⟩
  refine ⟨ty, decoded, linear, ?_, ?_⟩
  · rw [TyDoc.validate_decoded_iff constructed_collected decoded, uses]
    decide
  · rw [Ne, TyDoc.validate_decoded_iff constructed_collected decoded, uses]
    decide

/-! ### Claimed bounds -/

mutual

/-- The same document, with the same claim for every bound of a custom type. -/
def TyDoc.unclaimed : TyDoc → TyDoc
  | .custom extension id args _ => .custom extension id (ArgDoc.allUnclaimed args) .copyable
  | .sum variants => .sum (TyDoc.rowsUnclaimed variants)
  | .tuple row => .tuple (TyDoc.rowUnclaimed row)
  | .function input output reqs => .function (TyDoc.rowUnclaimed input) (TyDoc.rowUnclaimed output) reqs
  | .var index bound => .var index bound

def TyDoc.rowUnclaimed : List TyDoc → List TyDoc
  | [] => []
  | ty :: rest => TyDoc.unclaimed ty :: TyDoc.rowUnclaimed rest

def TyDoc.rowsUnclaimed : List (List TyDoc) → List (List TyDoc)
  | [] => []
  | row :: rest => TyDoc.rowUnclaimed row :: TyDoc.rowsUnclaimed rest

def ArgDoc.unclaimed : ArgDoc → ArgDoc
  | .type ty => .type (TyDoc.unclaimed ty)
  | .sequence elems => .sequence (ArgDoc.allUnclaimed elems)
  | .nat value => .nat value
  | .string value => .string value
  | .extensions entries => .extensions entries
  | .var index param => .var index param

def ArgDoc.allUnclaimed : List ArgDoc → List ArgDoc
  | [] => []
  | arg :: rest => ArgDoc.unclaimed arg :: ArgDoc.allUnclaimed rest

end

mutual

theorem TyDoc.decode_unclaimed : ∀ doc : TyDoc, doc.unclaimed.decode registry = doc.decode registry
  | .custom _ _ args _ => by
    rw [TyDoc.unclaimed, TyDoc.decode, TyDoc.decode, ArgDoc.decodeAll_unclaimed args]
  | .sum variants => by rw [TyDoc.unclaimed, TyDoc.decode, TyDoc.decode, TyDoc.decodeRows_unclaimed variants]
  | .tuple row => by rw [TyDoc.unclaimed, TyDoc.decode, TyDoc.decode, TyDoc.decodeRow_unclaimed row]
  | .function input output _ => by
    rw [TyDoc.unclaimed, TyDoc.decode, TyDoc.decode, TyDoc.decodeRow_unclaimed input,
      TyDoc.decodeRow_unclaimed output]
  | .var _ _ => by rw [TyDoc.unclaimed]

theorem TyDoc.decodeRow_unclaimed : ∀ row : List TyDoc,
    TyDoc.decodeRow registry (TyDoc.rowUnclaimed row) = TyDoc.decodeRow registry row
  | [] => by rw [TyDoc.rowUnclaimed]
  | ty :: rest => by
    rw [TyDoc.rowUnclaimed, TyDoc.decodeRow, TyDoc.decodeRow, TyDoc.decode_unclaimed ty,
      TyDoc.decodeRow_unclaimed rest]

theorem TyDoc.decodeRows_unclaimed : ∀ rows : List (List TyDoc),
    TyDoc.decodeRows registry (TyDoc.rowsUnclaimed rows) = TyDoc.decodeRows registry rows
  | [] => by rw [TyDoc.rowsUnclaimed]
  | row :: rest => by
    rw [TyDoc.rowsUnclaimed, TyDoc.decodeRows, TyDoc.decodeRows, TyDoc.decodeRow_unclaimed row,
      TyDoc.decodeRows_unclaimed rest]

theorem ArgDoc.decode_unclaimed : ∀ doc : ArgDoc, doc.unclaimed.decode registry = doc.decode registry
  | .type ty => by rw [ArgDoc.unclaimed, ArgDoc.decode, ArgDoc.decode, TyDoc.decode_unclaimed ty]
  | .sequence elems => by rw [ArgDoc.unclaimed, ArgDoc.decode, ArgDoc.decode, ArgDoc.decodeAll_unclaimed elems]
  | .nat _ | .string _ | .extensions _ | .var _ _ => by rw [ArgDoc.unclaimed]

theorem ArgDoc.decodeAll_unclaimed : ∀ args : List ArgDoc,
    ArgDoc.decodeAll registry (ArgDoc.allUnclaimed args) = ArgDoc.decodeAll registry args
  | [] => by rw [ArgDoc.allUnclaimed]
  | arg :: rest => by
    rw [ArgDoc.allUnclaimed, ArgDoc.decodeAll, ArgDoc.decodeAll, ArgDoc.decode_unclaimed arg,
      ArgDoc.decodeAll_unclaimed rest]

end

/-- Documents that differ only in the bounds that they claim are decoded alike. -/
theorem TyDoc.decode_eq_of_unclaimed_eq {left right : TyDoc} (same : left.unclaimed = right.unclaimed) :
    left.decode registry = right.decode registry := by
  rw [← left.decode_unclaimed, same, right.decode_unclaimed]

end NestedFlow
