import NestedFlow.Proofs.Substitution
import NestedFlow.Proofs.Table

/-! Instances of polymorphic signatures.

A well formed signature has a well formed instance at all arguments that fit its parameters, in the scope of the
arguments. Two conventions are presupposed that nothing checks: a type variable is passed as the type that it is, and a
definition takes the bound of its instances from parameters that are types.
-/

set_option autoImplicit false

namespace NestedFlow

open Outcome

variable {registry : Registry} {scope : List Param} {args : List Arg}

/-! ### Well formed types -/

theorem Ty.validate_custom_iff {extension name : String} {own : List Arg} {bound : Bound}
    {boundFrom : Option (List Int)} :
    (Ty.custom extension name own bound boundFrom).validate registry scope = .ok () ↔
      ∃ definition, registry.getType extension name = .ok definition ∧
        (∀ arg ∈ own, arg.validate registry scope = .ok ()) ∧ Arg.checkList own definition.params = .ok () ∧
        definition.boundFor own = .ok bound ∧ definition.boundFrom? = boundFrom := by
  rw [Ty.validate, bind_eq_ok_iff]
  refine exists_congr fun definition => and_congr_right fun _ => ?_
  rw [andThen_eq_ok_iff, andThen_eq_ok_iff, Arg.validateAll_eq_ok_iff, bind_eq_ok_iff]
  refine and_congr_right fun _ => and_congr_right fun _ => ?_
  constructor
  · rintro ⟨expected, given, agrees⟩
    split at agrees
    · rename_i same
      exact ⟨same.1 ▸ given, same.2⟩
    · cases agrees
  · rintro ⟨given, rule⟩
    exact ⟨bound, given, if_pos ⟨rfl, rule⟩⟩

/-- Well formed types have the bounds that their definitions give. -/
theorem isBuilt_of_validate :
    (∀ ty : Ty, ty.validate registry scope = .ok () → ty.IsBuilt) ∧
      ∀ arg : Arg, arg.validate registry scope = .ok () → arg.IsBuilt := by
  refine Ty.induction ?custom ?sum ?tuple ?function ?var ?type ?nat ?string ?extensions ?sequence ?argVar
  case custom =>
    intro extension name own bound boundFrom ih valid
    obtain ⟨definition, -, parts, -, recorded, rule⟩ := Ty.validate_custom_iff.1 valid
    refine .custom (fun arg mem => ih arg mem (parts arg mem)) ?_
    rw [definition.recordedBound_eq rule recorded, recorded]
  case sum =>
    intro variants ih valid
    rw [Ty.validate, Row.validateAll_eq_ok_iff] at valid
    exact .sum fun row listed ty mem => ih row listed ty mem (valid row listed ty mem)
  case tuple =>
    intro row ih valid
    rw [Ty.validate, Row.validate_eq_ok_iff] at valid
    exact .tuple fun ty mem => ih ty mem (valid ty mem)
  case function =>
    intro input output reqs inputs outputs valid
    obtain ⟨inputValid, outputValid, -⟩ := Ty.validate_function_iff.1 valid
    exact .function (fun ty mem => inputs ty mem (inputValid ty mem)) fun ty mem => outputs ty mem (outputValid ty mem)
  case var => exact fun index bound _ => .var index bound
  case type =>
    intro ty ih valid
    rw [Arg.validate] at valid
    exact .type (ih valid)
  case nat => exact fun value _ => .nat value
  case string => exact fun value _ => .string value
  case extensions => exact fun set _ => .extensions set
  case sequence =>
    intro elems ih valid
    rw [Arg.validate, Arg.validateAll_eq_ok_iff] at valid
    exact .sequence fun elem mem => ih elem mem (valid elem mem)
  case argVar => exact fun index param _ => .var index param

/-- What is well formed without variables is the same after every substitution. -/
theorem subst_closed :
    (∀ ty : Ty, ty.validate registry [] = .ok () → ty.subst args = .ok ty) ∧
      ∀ arg : Arg, arg.validate registry [] = .ok () → arg.subst args = .ok arg := by
  have undeclared : ∀ {index kind}, checkVariable [] index kind ≠ .ok () := by
    intro index kind declared
    cases (checkVariable_eq_ok_iff.1 declared).2
  have ofSet : ∀ {set : ExtensionSet}, set.validate [] = .ok () → set.subst args = .ok set := by
    intro set valid
    have none : ∀ index, index ∉ set.indices := fun index mem =>
      undeclared (ExtensionSet.validate_eq_ok_iff.1 valid index mem)
    simp [ExtensionSet.subst_eq_ok_iff, none]
  refine Ty.induction ?custom ?sum ?tuple ?function ?var ?type ?nat ?string ?extensions ?sequence ?argVar
  case custom =>
    intro extension name own bound boundFrom ih valid
    obtain ⟨definition, -, parts, -, recorded, rule⟩ := Ty.validate_custom_iff.1 valid
    -- the arguments stay the same, and with them the bound that was recorded from them
    rw [← definition.recordedBound_eq rule recorded] at recorded
    refine (Ty.subst_custom_iff recorded).2 ⟨own, bound, rfl, ?_, recorded⟩
    exact List.forall₂_same.2 fun arg mem => ih arg mem (parts arg mem)
  case sum =>
    intro variants ih valid
    rw [Ty.validate, Row.validateAll_eq_ok_iff] at valid
    refine Ty.subst_sum_iff.2 ⟨variants, rfl, List.forall₂_same.2 fun row listed => ?_⟩
    exact List.forall₂_same.2 fun ty mem => ih row listed ty mem (valid row listed ty mem)
  case tuple =>
    intro row ih valid
    rw [Ty.validate, Row.validate_eq_ok_iff] at valid
    exact Ty.subst_tuple_iff.2 ⟨row, rfl, List.forall₂_same.2 fun ty mem => ih ty mem (valid ty mem)⟩
  case function =>
    intro input output reqs inputs outputs valid
    obtain ⟨inputValid, outputValid, setValid⟩ := Ty.validate_function_iff.1 valid
    refine Ty.subst_function_iff.2 ⟨input, output, reqs, rfl, ?_, ?_, ofSet setValid⟩
    · exact List.forall₂_same.2 fun ty mem => inputs ty mem (inputValid ty mem)
    · exact List.forall₂_same.2 fun ty mem => outputs ty mem (outputValid ty mem)
  case var =>
    intro index bound valid
    rw [Ty.validate] at valid
    exact absurd valid undeclared
  case type =>
    intro ty ih valid
    rw [Arg.validate] at valid
    exact Arg.subst_type_iff.2 ⟨ty, rfl, ih valid⟩
  case nat => exact fun value _ => rfl
  case string => exact fun value _ => rfl
  case extensions =>
    intro set valid
    rw [Arg.validate] at valid
    exact Arg.subst_extensions_iff.2 ⟨set, rfl, ofSet valid⟩
  case sequence =>
    intro elems ih valid
    rw [Arg.validate, Arg.validateAll_eq_ok_iff] at valid
    exact Arg.subst_sequence_iff.2 ⟨elems, rfl, List.forall₂_same.2 fun elem mem => ih elem mem (valid elem mem)⟩
  case argVar =>
    intro index param valid
    rw [Arg.validate] at valid
    exact absurd valid undeclared

/-! ### Results of substitutions -/

theorem Arg.validate_iff_of_asExtensions {arg : Arg} {set : ExtensionSet} (isSet : arg.asExtensions = .ok set) :
    arg.validate registry scope = .ok () ↔ set.validate scope = .ok () := by
  cases arg with
  | extensions own =>
    cases isSet
    rw [Arg.validate]
  | var index param =>
    cases param with
    | extensions =>
      cases isSet
      rw [Arg.validate, ExtensionSet.validate_ofVariable]
    | _ => cases isSet
  | _ => cases isSet

section

variable (supplied : ∀ arg ∈ args, arg.validate registry scope = .ok ())

include supplied

theorem validate_argument {index : Int} {kind : Param} {arg : Arg} (asked : argumentFor args index kind = .ok arg) :
    arg.validate registry scope = .ok () :=
  supplied arg (List.mem_of_getElem? (argumentFor_eq_ok_iff.1 asked).2.1)

theorem ExtensionSet.validate_subst {set given : ExtensionSet} (made : set.subst args = .ok given) :
    given.validate scope = .ok () := by
  refine ExtensionSet.validate_eq_ok_iff.2 fun other mem => ?_
  obtain ⟨index, -, part, known, inside⟩ := ((ExtensionSet.subst_eq_ok_iff.1 made).2.2 other).1 mem
  obtain ⟨arg, asked, isSet⟩ := bind_eq_ok_iff.1 known
  have valid := (Arg.validate_iff_of_asExtensions isSet).1 (validate_argument supplied asked)
  exact ExtensionSet.validate_eq_ok_iff.1 valid other inside

/-- A substitution leads from the scope of the variables to the scope of the arguments. -/
theorem validate_subst {decls : List Param} :
    (∀ ty : Ty, ty.validate registry decls = .ok () → ∀ given, ty.subst args = .ok given →
      given.validate registry scope = .ok ()) ∧
      ∀ arg : Arg, arg.validate registry decls = .ok () → ∀ given, arg.subst args = .ok given →
        given.validate registry scope = .ok () := by
  refine Ty.induction ?custom ?sum ?tuple ?function ?var ?type ?nat ?string ?extensions ?sequence ?argVar
  case custom =>
    intro extension name own bound boundFrom ih valid given made
    obtain ⟨definition, found, parts, fits, recorded, rule⟩ := Ty.validate_custom_iff.1 valid
    have same := definition.recordedBound_eq rule recorded
    obtain ⟨others, derived, rfl, substituted, again⟩ := (Ty.subst_custom_iff ((same own).trans recorded)).1 made
    -- the bound was computed anew, by the rule of the definition
    refine Ty.validate_custom_iff.2 ⟨definition, found, ?_, ?_, (same others).symm.trans again, rule⟩
    · exact forall_mem_of_forall₂ substituted fun arg mem => ih arg mem (parts arg mem)
    · exact Arg.checkList_subst (fun arg mem => isBuilt_of_validate.2 arg (parts arg mem)) fits
        (Arg.substAll_eq_ok_iff.2 substituted)
  case sum =>
    intro variants ih valid given made
    obtain ⟨rows, rfl, substituted⟩ := Ty.subst_sum_iff.1 made
    rw [Ty.validate, Row.validateAll_eq_ok_iff] at valid ⊢
    refine forall_mem_of_forall₂ substituted fun row listed types made => ?_
    exact forall_mem_of_forall₂ made fun ty mem => ih row listed ty mem (valid row listed ty mem)
  case tuple =>
    intro row ih valid given made
    obtain ⟨types, rfl, substituted⟩ := Ty.subst_tuple_iff.1 made
    rw [Ty.validate, Row.validate_eq_ok_iff] at valid ⊢
    exact forall_mem_of_forall₂ substituted fun ty mem => ih ty mem (valid ty mem)
  case function =>
    intro input output reqs ofInput ofOutput valid given made
    obtain ⟨inputs, outputs, set, rfl, inputMade, outputMade, setMade⟩ := Ty.subst_function_iff.1 made
    obtain ⟨inputValid, outputValid, -⟩ := Ty.validate_function_iff.1 valid
    refine Ty.validate_function_iff.2 ⟨?_, ?_, ExtensionSet.validate_subst supplied setMade⟩
    · exact forall_mem_of_forall₂ inputMade fun ty mem => ofInput ty mem (inputValid ty mem)
    · exact forall_mem_of_forall₂ outputMade fun ty mem => ofOutput ty mem (outputValid ty mem)
  case var =>
    intro index bound _ given made
    have valid := validate_argument supplied (Ty.subst_var_iff.1 made)
    rwa [Arg.validate] at valid
  case type =>
    intro ty ih valid given made
    obtain ⟨other, rfl, substituted⟩ := Arg.subst_type_iff.1 made
    rw [Arg.validate] at valid ⊢
    exact ih valid other substituted
  case nat | string =>
    intro value _ given made
    cases made
    rfl
  case extensions =>
    intro set _ given made
    obtain ⟨other, rfl, substituted⟩ := Arg.subst_extensions_iff.1 made
    rw [Arg.validate]
    exact ExtensionSet.validate_subst supplied substituted
  case sequence =>
    intro elems ih valid given made
    obtain ⟨others, rfl, substituted⟩ := Arg.subst_sequence_iff.1 made
    rw [Arg.validate, Arg.validateAll_eq_ok_iff] at valid ⊢
    exact forall_mem_of_forall₂ substituted fun elem mem => ih elem mem (valid elem mem)
  case argVar =>
    intro index param _ given made
    exact validate_argument supplied made

end

/-! ### Substitutions that succeed -/

/-- The bound of the instances is fixed or taken from types: a position within the parameters is one of a type. -/
def TypeDef.BoundFromTypes (definition : TypeDef) : Prop :=
  ∀ positions, definition.bound = .fromArgs positions → ∀ position ∈ positions, position < definition.params.length →
    ∃ bound, itemAt? definition.params position = some (.type bound)

theorem TypeDef.BoundFromTypes.exists_boundFor {definition : TypeDef} (typed : definition.BoundFromTypes)
    (supplies : Supplies args definition.params) : ∃ bound, definition.boundFor args = .ok bound := by
  rw [TypeDef.boundFor]
  cases rule : definition.bound with
  | fixed bound => exact ⟨bound, rfl⟩
  | fromArgs positions =>
    refine exists_derivedBound fun position mem inside => ?_
    have fits := forall₂_of_mem (Arg.checkList_eq_ok_iff.1 supplies.fits) fun arg mem _ fits =>
      And.intro fits (supplies.plain arg mem)
    rw [fits.length_eq] at inside
    obtain ⟨bound, isType⟩ := typed positions rule position mem inside
    obtain ⟨arg, found, fits, plain⟩ := itemAt?_of_forall₂ fits.flip isType
    obtain ⟨ty, rfl⟩ := Arg.exists_type fits plain
    exact ⟨ty, found⟩

/-- All definitions of a registry take bounds from types. -/
def Registry.BoundsFromTypes (registry : Registry) : Prop :=
  ∀ extension name definition, registry.getType extension name = .ok definition → definition.BoundFromTypes

/-- For this the definitions are checked one by one. -/
theorem Registry.boundsFromTypes_of_forall
    (each : ∀ owner ∈ registry.extensions.entries, ∀ own ∈ owner.2.types.entries, own.2.BoundFromTypes) :
    registry.BoundsFromTypes := by
  intro extension name definition found
  rw [Registry.getType, Registry.get] at found
  split at found
  · rename_i owner isOwner
    rw [pure_eq, ok_bind] at found
    split at found
    · rename_i own isOwn
      cases found
      rw [Table.get?_eq_some_iff] at isOwner isOwn
      exact each _ isOwner _ isOwn
    · cases found
  · cases found

theorem Supplies.exists_subst_set (supplies : Supplies args scope) {set : ExtensionSet}
    (valid : set.validate scope = .ok ()) : ∃ given, set.subst args = .ok given := by
  have known : ∀ index ∈ set.indices.toList, ∃ part, ExtensionSet.standsFor args index = .ok part := by
    intro index mem
    obtain ⟨arg, asked, -⟩ := supplies.exists_argument (ExtensionSet.validate_eq_ok_iff.1 valid index mem)
    obtain ⟨part, isSet⟩ := Arg.exists_set (argumentFor_eq_ok_iff.1 asked).2.2
    exact ⟨part, bind_eq_ok_iff.2 ⟨arg, asked, isSet⟩⟩
  obtain ⟨parts, answered⟩ := exists_forall₂ known
  exact ⟨_, ExtensionSet.substVariables_eq_ok_iff.2 ⟨parts, answered, rfl⟩⟩

/-- Arguments for all variables of a scope can be put into everything that is well formed in it. -/
theorem Supplies.exists_subst (supplies : Supplies args scope) (typed : registry.BoundsFromTypes) :
    (∀ ty : Ty, ty.validate registry scope = .ok () → ∃ given, ty.subst args = .ok given) ∧
      ∀ arg : Arg, arg.validate registry scope = .ok () →
        ∃ given, arg.subst args = .ok given ∧ given.isTypeVariable = false := by
  refine Ty.induction ?custom ?sum ?tuple ?function ?var ?type ?nat ?string ?extensions ?sequence ?argVar
  case custom =>
    intro extension name own bound boundFrom ih valid
    obtain ⟨definition, found, parts, fits, recorded, rule⟩ := Ty.validate_custom_iff.1 valid
    have same := definition.recordedBound_eq rule recorded
    obtain ⟨others, made⟩ := exists_forall₂ fun arg mem => ih arg mem (parts arg mem)
    have substituted := made.imp fun _ _ held => held.1
    -- the new arguments fit the definition as the old ones did, so there are types where its bound is taken from
    have supplied : Supplies others definition.params := by
      constructor
      · exact Arg.checkList_subst (fun arg mem => isBuilt_of_validate.2 arg (parts arg mem)) fits
          (Arg.substAll_eq_ok_iff.2 substituted)
      · exact forall_mem_of_forall₂ made fun _ _ _ held => held.2
    obtain ⟨derived, again⟩ := (typed extension name definition found).exists_boundFor supplied
    rw [← same] at again
    exact ⟨_, (Ty.subst_custom_iff ((same own).trans recorded)).2 ⟨others, derived, rfl, substituted, again⟩⟩
  case sum =>
    intro variants ih valid
    rw [Ty.validate, Row.validateAll_eq_ok_iff] at valid
    obtain ⟨rows, made⟩ := exists_forall₂ fun row listed =>
      exists_forall₂ fun ty mem => ih row listed ty mem (valid row listed ty mem)
    exact ⟨.sum rows, Ty.subst_sum_iff.2 ⟨rows, rfl, made⟩⟩
  case tuple =>
    intro row ih valid
    rw [Ty.validate, Row.validate_eq_ok_iff] at valid
    obtain ⟨types, made⟩ := exists_forall₂ fun ty mem => ih ty mem (valid ty mem)
    exact ⟨.tuple types, Ty.subst_tuple_iff.2 ⟨types, rfl, made⟩⟩
  case function =>
    intro input output reqs ofInput ofOutput valid
    obtain ⟨inputValid, outputValid, setValid⟩ := Ty.validate_function_iff.1 valid
    obtain ⟨inputs, inputMade⟩ := exists_forall₂ fun ty mem => ofInput ty mem (inputValid ty mem)
    obtain ⟨outputs, outputMade⟩ := exists_forall₂ fun ty mem => ofOutput ty mem (outputValid ty mem)
    obtain ⟨set, setMade⟩ := supplies.exists_subst_set setValid
    exact ⟨_, Ty.subst_function_iff.2 ⟨inputs, outputs, set, rfl, inputMade, outputMade, setMade⟩⟩
  case var =>
    intro index bound valid
    rw [Ty.validate] at valid
    obtain ⟨arg, asked, plain⟩ := supplies.exists_argument valid
    obtain ⟨ty, rfl⟩ := Arg.exists_type (argumentFor_eq_ok_iff.1 asked).2.2 plain
    exact ⟨ty, Ty.subst_var_iff.2 asked⟩
  case type =>
    intro ty ih valid
    rw [Arg.validate] at valid
    obtain ⟨other, made⟩ := ih valid
    exact ⟨.type other, Arg.subst_type_iff.2 ⟨other, rfl, made⟩, rfl⟩
  case nat => exact fun value _ => ⟨.nat value, rfl, rfl⟩
  case string => exact fun value _ => ⟨.string value, rfl, rfl⟩
  case extensions =>
    intro set valid
    rw [Arg.validate] at valid
    obtain ⟨other, made⟩ := supplies.exists_subst_set valid
    exact ⟨.extensions other, Arg.subst_extensions_iff.2 ⟨other, rfl, made⟩, rfl⟩
  case sequence =>
    intro elems ih valid
    rw [Arg.validate, Arg.validateAll_eq_ok_iff] at valid
    obtain ⟨others, made⟩ := exists_forall₂ fun elem mem => ih elem mem (valid elem mem)
    exact ⟨.sequence others, Arg.subst_sequence_iff.2 ⟨others, rfl, made.imp fun _ _ held => held.1⟩, rfl⟩
  case argVar =>
    intro index param valid
    rw [Arg.validate] at valid
    exact supplies.exists_argument valid

/-! ### Signatures -/

theorem Signature.subst_eq_ok_iff {signature given : Signature} :
    signature.subst args = .ok given ↔ signature.toTy.subst args = .ok given.toTy := by
  cases given
  simp only [Signature.subst, Signature.toTy, Ty.subst, bind_eq_ok_iff, pure_eq, Except.ok.injEq, Ty.function.injEq,
    Signature.mk.injEq]

theorem Signature.exists_subst {signature : Signature} {ty : Ty} (made : signature.toTy.subst args = .ok ty) :
    ∃ given, signature.subst args = .ok given ∧ ty = given.toTy := by
  obtain ⟨input, output, reqs, rfl, -⟩ := Ty.subst_function_iff.1 made
  exact ⟨⟨input, output, reqs⟩, Signature.subst_eq_ok_iff.2 made, rfl⟩

/-- A signature without parameters is taken as it is, which is the same as a substitution: there are no variables. -/
theorem Scheme.instantiate_eq {scheme : Scheme} (valid : scheme.validate registry = .ok ())
    (fits : Arg.checkList args scheme.params = .ok ()) : scheme.instantiate args = scheme.body.subst args := by
  rw [Scheme.instantiate, fits, ok_bind]
  split
  · rename_i none
    rw [Scheme.validate, List.isEmpty_iff.1 none] at valid
    exact (Signature.subst_eq_ok_iff.2 (subst_closed.1 _ valid)).symm
  · rfl

theorem Scheme.exists_instance (typed : registry.BoundsFromTypes) {scheme : Scheme}
    (valid : scheme.validate registry = .ok ()) (supplies : Supplies args scheme.params) :
    ∃ given, scheme.instantiate args = .ok given ∧ scheme.body.subst args = .ok given := by
  obtain ⟨ty, made⟩ := (supplies.exists_subst typed).1 _ valid
  obtain ⟨given, made, -⟩ := Signature.exists_subst made
  exact ⟨given, (Scheme.instantiate_eq valid supplies.fits).trans made, made⟩

/-- A well formed signature has a well formed instance at well formed arguments that fit its parameters. -/
theorem Scheme.has_valid_instance (typed : registry.BoundsFromTypes) {scheme : Scheme}
    (valid : scheme.validate registry = .ok ()) (fits : Arg.checkList args scheme.params = .ok ())
    (plain : ∀ arg ∈ args, arg.isTypeVariable = false)
    (supplied : ∀ arg ∈ args, arg.validate registry scope = .ok ()) :
    ∃ given, scheme.instantiate args = .ok given ∧ given.validate registry scope = .ok () := by
  obtain ⟨given, instantiated, made⟩ := Scheme.exists_instance typed valid ⟨fits, plain⟩
  exact ⟨given, instantiated, (validate_subst supplied).1 _ valid _ (Signature.subst_eq_ok_iff.1 made)⟩

/-- Lists of so many elements, which are as linear as their elements. -/
def arrays : Extension where
  name := "collections"
  version := "0.1.0"
  reqs := ∅
  description := ""
  types := .ofList [("Array", ⟨"collections", "Array", [.nat none, .type .linear], "", .fromArgs [1]⟩)]
  operations := ∅
  values := ∅

def collections : Registry := ⟨.ofList [("collections", arrays)]⟩

theorem boundsFromTypes_collections : collections.BoundsFromTypes := by
  refine Registry.boundsFromTypes_of_forall fun owner isOwner own isOwn positions rule position mem _ => ?_
  cases List.mem_singleton.1 isOwner
  cases List.mem_singleton.1 isOwn
  cases rule
  cases List.mem_singleton.1 mem
  exact ⟨.linear, rfl⟩

/-- Applies the same function to all elements of an array. -/
def mapping : Scheme where
  params := [.type .linear, .nat none, .extensions]
  body := {
    input := [.custom "collections" "Array" [.var 1 (.nat none), .type (.var 0 .linear)] .linear (some [1]),
      .function [.var 0 .linear] [.var 0 .linear] (.ofVariable 2)]
    output := [.custom "collections" "Array" [.var 1 (.nat none), .type (.var 0 .linear)] .linear (some [1])]
    reqs := .ofVariable 2 }

/-- Arguments inside of another polymorphic function, whose variables they mention. -/
def mapped : List Arg :=
  [.type (.tuple [.var 1 .copyable]), .nat 3, .extensions ((ExtensionSet.ofVariable 0).insert "logic")]

theorem Scheme.has_valid_instance_mapping :
    ∃ given, mapping.instantiate mapped = .ok given ∧
      given.validate collections [.extensions, .type .copyable] = .ok () := by
  refine Scheme.has_valid_instance boundsFromTypes_collections rfl rfl ?_ ?_
  · decide
  · simp only [mapped, List.forall_mem_cons]
    exact ⟨rfl, rfl, rfl, List.forall_mem_nil _⟩

/-- Values with a size, which is one of the positions for the bound although it is no type. -/
def measures : Extension where
  name := "measures"
  version := "0.1.0"
  reqs := ∅
  description := ""
  types := .ofList [("Sized", ⟨"measures", "Sized", [.type .linear, .nat none], "", .fromArgs [0, 1]⟩)]
  operations := ∅
  values := ∅

def measured : Registry := ⟨.ofList [("measures", measures)]⟩

/-- As long as the value is a linear variable, the bound is known without a look at the size. -/
def consuming : Scheme where
  params := [.type .linear]
  body := .ofRows [.custom "measures" "Sized" [.type (.var 0 .linear), .nat 3] .linear (some [0, 1])] []

/-- The bound of the instance depends on the size, so there is none. -/
theorem Scheme.lacks_instance_consuming :
    consuming.validate measured = .ok () ∧ Arg.checkList [.type (.tuple [])] consuming.params = .ok () ∧
      (Arg.type (.tuple [])).validate measured [] = .ok () ∧
      ¬ ∃ given, consuming.instantiate [.type (.tuple [])] = .ok given := by
  refine ⟨rfl, rfl, rfl, ?_⟩
  rintro ⟨given, made⟩
  cases made

/-- The check of the arguments decides whether there is an instance, and gives the error if there is none. -/
theorem Scheme.fails_as_checked (typed : registry.BoundsFromTypes) {scheme : Scheme}
    (valid : scheme.validate registry = .ok ()) (plain : ∀ arg ∈ args, arg.isTypeVariable = false) :
    (Arg.checkList args scheme.params = .ok () → ∃ given, scheme.instantiate args = .ok given) ∧
      ∀ error, scheme.instantiate args = .error error ↔ Arg.checkList args scheme.params = .error error := by
  have accepted : Arg.checkList args scheme.params = .ok () → ∃ given, scheme.instantiate args = .ok given := by
    intro fits
    obtain ⟨given, instantiated, -⟩ := Scheme.exists_instance typed valid ⟨fits, plain⟩
    exact ⟨given, instantiated⟩
  refine ⟨accepted, fun error => ?_⟩
  cases checked : Arg.checkList args scheme.params with
  | error found => rw [Scheme.instantiate, checked, error_bind, Except.error.injEq, Except.error.injEq]
  | ok _ =>
    obtain ⟨given, instantiated⟩ := accepted checked
    simp [instantiated]

/-- No array has a negative number of elements. -/
def negative : List Arg := [.type (.tuple []), .nat (-1), .extensions ∅]

theorem Scheme.fails_as_checked_mapping :
    (∃ given, mapping.instantiate mapped = .ok given) ∧
      ∃ error, Arg.checkList negative mapping.params = .error error ∧ mapping.instantiate negative = .error error := by
  have valid : mapping.validate collections = .ok () := rfl
  have plain : ∀ arg ∈ mapped, arg.isTypeVariable = false := by decide
  have alsoPlain : ∀ arg ∈ negative, arg.isTypeVariable = false := by decide
  obtain ⟨error, refused⟩ : ∃ error, Arg.checkList negative mapping.params = .error error := ⟨_, rfl⟩
  refine ⟨(Scheme.fails_as_checked boundsFromTypes_collections valid plain).1 rfl, error, refused, ?_⟩
  exact ((Scheme.fails_as_checked boundsFromTypes_collections valid alsoPlain).2 error).2 refused

/-- A function that ignores its argument. -/
def ignoring : Scheme := ⟨[.type .linear], .ofRows [.var 0 .linear] []⟩

/-- Neither the size of a value nor a variable that is passed in the place of a type is noticed by the check. -/
theorem Scheme.checked_but_fails :
    (consuming.validate measured = .ok () ∧
      Arg.checkList [.type (.tuple [])] consuming.params = .ok () ∧
      ∃ error, consuming.instantiate [.type (.tuple [])] = .error error) ∧
      ignoring.validate ⟨∅⟩ = .ok () ∧ Arg.checkList [.var 0 (.type .linear)] ignoring.params = .ok () ∧
      ∃ error, ignoring.instantiate [.var 0 (.type .linear)] = .error error :=
  ⟨⟨rfl, rfl, _, rfl⟩, rfl, rfl, _, rfl⟩

end NestedFlow
