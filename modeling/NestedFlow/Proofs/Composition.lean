import NestedFlow.Proofs.Instantiation

/-! Substitutions one after the other.

Two substitutions do what one does that puts the second into the arguments of the first. So a signature can be
instantiated first and put into the scope of its use afterwards, or the other way round.
-/

set_option autoImplicit false

namespace NestedFlow

open Outcome

/-- Relations of lists follow each other item by item. -/
theorem forall₂_comp {α β γ : Type} {early : α → β → Prop} {late : β → γ → Prop} {both : α → γ → Prop}
    {first : List α} {second : List β} {third : List γ} (before : List.Forall₂ early first second)
    (after : List.Forall₂ late second third)
    (each : ∀ x ∈ first, ∀ y, early x y → ∀ z, late y z → both x z) : List.Forall₂ both first third := by
  induction before generalizing third with
  | nil =>
    cases after
    exact .nil
  | cons related _ ih =>
    cases after with
    | cons further rest =>
      obtain ⟨here, there⟩ := List.forall_mem_cons.1 each
      exact .cons (here _ related _ further) (ih rest there)

variable {args others both : List Arg}

/-! ### Sets of extensions -/

namespace ExtensionSet

theorem subst_ofVariable {index : Int} {part : ExtensionSet} (known : standsFor args index = .ok part) :
    (ofVariable index).subst args = .ok part := by
  have only : ∀ other, other ∈ (ofVariable index).indices ↔ other = index := fun _ => List.mem_singleton
  have unnamed : ∀ name, name ∉ (ofVariable index).names := fun _ => List.not_mem_nil
  simp [subst_eq_ok_iff, only, unnamed, known]

end ExtensionSet

/-- A set that is given for a variable is still given for it after a substitution in the argument. -/
theorem Arg.asExtensions_subst {arg made : Arg} {set : ExtensionSet} (isSet : arg.asExtensions = .ok set)
    (substituted : arg.subst args = .ok made) :
    ∃ part, set.subst args = .ok part ∧ made.asExtensions = .ok part := by
  cases arg with
  | extensions own =>
    cases isSet
    obtain ⟨part, rfl, found⟩ := subst_extensions_iff.1 substituted
    exact ⟨part, found, rfl⟩
  | var index param =>
    cases param with
    | extensions =>
      cases isSet
      obtain ⟨part, given⟩ := exists_set (argumentFor_eq_ok_iff.1 substituted).2.2
      exact ⟨part, ExtensionSet.subst_ofVariable (bind_eq_ok_iff.2 ⟨made, substituted, given⟩), given⟩
    | _ => cases isSet
  | _ => cases isSet

section

variable (built : ∀ arg ∈ args, arg.IsBuilt) (composed : Arg.substAll others args = .ok both)

include built composed

/-- The argument for a variable, after a second substitution. -/
theorem argumentFor_subst {index : Int} {kind : Param} {arg : Arg} (asked : argumentFor args index kind = .ok arg) :
    ∃ made, arg.subst others = .ok made ∧ argumentFor both index kind = .ok made := by
  obtain ⟨natural, found, fits⟩ := argumentFor_eq_ok_iff.1 asked
  obtain ⟨made, there, substituted⟩ := getElem?_of_forall₂ (Arg.substAll_eq_ok_iff.1 composed) found
  have still := Arg.check_subst (built arg (List.mem_of_getElem? found)) fits substituted
  exact ⟨made, substituted, argumentFor_eq_ok_iff.2 ⟨natural, there, still⟩⟩

theorem ExtensionSet.standsFor_subst {index : Int} {part : ExtensionSet} (known : standsFor args index = .ok part) :
    ∃ made, part.subst others = .ok made ∧ standsFor both index = .ok made := by
  obtain ⟨arg, asked, isSet⟩ := bind_eq_ok_iff.1 known
  obtain ⟨other, substituted, there⟩ := argumentFor_subst built composed asked
  obtain ⟨made, found, given⟩ := Arg.asExtensions_subst isSet substituted
  exact ⟨made, found, bind_eq_ok_iff.2 ⟨other, there, given⟩⟩

theorem ExtensionSet.substVariables_comp {indices : List Int} {start other middle : ExtensionSet}
    (early : substVariables args indices start = .ok middle) (moved : start.subst others = .ok other) :
    ∃ last, middle.subst others = .ok last ∧ substVariables both indices other = .ok last := by
  induction indices generalizing start other with
  | nil =>
    cases early
    exact ⟨other, moved, rfl⟩
  | cons index rest ih =>
    rw [substVariables_cons] at early ⊢
    obtain ⟨part, known, further⟩ := bind_eq_ok_iff.1 early
    obtain ⟨made, substituted, given⟩ := standsFor_subst built composed known
    rw [given, ok_bind]
    exact ih further (subst_union moved substituted)

theorem ExtensionSet.subst_comp {set middle last : ExtensionSet} (early : set.subst args = .ok middle)
    (late : middle.subst others = .ok last) : set.subst both = .ok last := by
  -- without its variables the set is the same in all scopes
  have start : subst others ⟨set.names, ∅⟩ = .ok ⟨set.names, ∅⟩ := rfl
  obtain ⟨made, substituted, given⟩ := substVariables_comp built composed early start
  cases late.symm.trans substituted
  exact given

/-- One substitution after another is the substitution of the composed arguments. -/
theorem subst_comp :
    (∀ ty : Ty, ty.IsBuilt → ∀ middle, ty.subst args = .ok middle → ∀ last, middle.subst others = .ok last →
      ty.subst both = .ok last) ∧
      ∀ arg : Arg, arg.IsBuilt → ∀ middle, arg.subst args = .ok middle → ∀ last, middle.subst others = .ok last →
        arg.subst both = .ok last := by
  refine Ty.induction ?custom ?sum ?tuple ?function ?var ?type ?nat ?string ?extensions ?sequence ?argVar
  case custom =>
    intro extension name own bound boundFrom ih isBuilt middle early last late
    cases isBuilt with | custom parts recorded =>
    obtain ⟨made, derived, rfl, first, again⟩ := (Ty.subst_custom_iff recorded).1 early
    -- the bound in between does not matter for the last one
    have same := recordedBound_congr again
    obtain ⟨final, computed, rfl, second, anew⟩ := (Ty.subst_custom_iff ((same made).trans again)).1 late
    refine (Ty.subst_custom_iff recorded).2 ⟨final, computed, rfl, ?_, (same final).symm.trans anew⟩
    exact forall₂_comp first second fun arg mem => ih arg mem (parts arg mem)
  case sum =>
    intro variants ih isBuilt middle early last late
    cases isBuilt with | sum parts =>
    obtain ⟨rows, rfl, first⟩ := Ty.subst_sum_iff.1 early
    obtain ⟨final, rfl, second⟩ := Ty.subst_sum_iff.1 late
    refine Ty.subst_sum_iff.2 ⟨final, rfl, forall₂_comp first second fun row listed between early after late => ?_⟩
    exact forall₂_comp early late fun ty mem => ih row listed ty mem (parts row listed ty mem)
  case tuple =>
    intro row ih isBuilt middle early last late
    cases isBuilt with | tuple parts =>
    obtain ⟨types, rfl, first⟩ := Ty.subst_tuple_iff.1 early
    obtain ⟨final, rfl, second⟩ := Ty.subst_tuple_iff.1 late
    exact Ty.subst_tuple_iff.2 ⟨final, rfl, forall₂_comp first second fun ty mem => ih ty mem (parts ty mem)⟩
  case function =>
    intro input output reqs ofInput ofOutput isBuilt middle early last late
    cases isBuilt with | function inputs outputs =>
    obtain ⟨_, _, _, rfl, inputMade, outputMade, setMade⟩ := Ty.subst_function_iff.1 early
    obtain ⟨_, _, _, rfl, inputFinal, outputFinal, setFinal⟩ := Ty.subst_function_iff.1 late
    refine Ty.subst_function_iff.2 ⟨_, _, _, rfl, ?_, ?_, ExtensionSet.subst_comp built composed setMade setFinal⟩
    · exact forall₂_comp inputMade inputFinal fun ty mem => ofInput ty mem (inputs ty mem)
    · exact forall₂_comp outputMade outputFinal fun ty mem => ofOutput ty mem (outputs ty mem)
  case var =>
    intro index bound _ middle early last late
    obtain ⟨made, substituted, given⟩ := argumentFor_subst built composed (Ty.subst_var_iff.1 early)
    cases (Arg.subst_type_iff.2 ⟨last, rfl, late⟩).symm.trans substituted
    exact Ty.subst_var_iff.2 given
  case type =>
    intro ty ih isBuilt middle early last late
    cases isBuilt with | type inner =>
    obtain ⟨made, rfl, first⟩ := Arg.subst_type_iff.1 early
    obtain ⟨final, rfl, second⟩ := Arg.subst_type_iff.1 late
    exact Arg.subst_type_iff.2 ⟨final, rfl, ih inner made first final second⟩
  case nat | string =>
    intro value _ middle early last late
    cases early
    cases late
    rfl
  case extensions =>
    intro set _ middle early last late
    obtain ⟨made, rfl, first⟩ := Arg.subst_extensions_iff.1 early
    obtain ⟨final, rfl, second⟩ := Arg.subst_extensions_iff.1 late
    exact Arg.subst_extensions_iff.2 ⟨final, rfl, ExtensionSet.subst_comp built composed first second⟩
  case sequence =>
    intro elems ih isBuilt middle early last late
    cases isBuilt with | sequence parts =>
    obtain ⟨made, rfl, first⟩ := Arg.subst_sequence_iff.1 early
    obtain ⟨final, rfl, second⟩ := Arg.subst_sequence_iff.1 late
    exact Arg.subst_sequence_iff.2
      ⟨final, rfl, forall₂_comp first second fun elem mem => ih elem mem (parts elem mem)⟩
  case argVar =>
    intro index param _ middle early last late
    obtain ⟨made, substituted, given⟩ := argumentFor_subst built composed early
    cases late.symm.trans substituted
    exact given

end

/-! ### Signatures -/

/-- An instance moved to another scope is the instance at the arguments moved there, and there is one. -/
theorem Scheme.instantiate_commutes {registry : Registry} {scope : List Param}
    (typed : registry.BoundsFromTypes) {scheme : Scheme} (valid : scheme.validate registry = .ok ())
    (fits : Arg.checkList args scheme.params = .ok ()) (plain : ∀ arg ∈ args, arg.isTypeVariable = false)
    (supplied : ∀ arg ∈ args, arg.validate registry scope = .ok ()) (othersFit : Arg.checkList others scope = .ok ())
    (othersPlain : ∀ arg ∈ others, arg.isTypeVariable = false) :
    ∃ given, (scheme.instantiate args >>= Signature.subst others) = .ok given ∧
      (Arg.substAll others args >>= scheme.instantiate) = .ok given := by
  have moves : Supplies others scope := ⟨othersFit, othersPlain⟩
  have built : ∀ arg ∈ args, arg.IsBuilt := fun arg mem => isBuilt_of_validate.2 arg (supplied arg mem)
  obtain ⟨first, instantiated, made⟩ := Scheme.exists_instance typed valid ⟨fits, plain⟩
  have early := Signature.subst_eq_ok_iff.1 made
  obtain ⟨last, late⟩ := (moves.exists_subst typed).1 _ ((validate_subst supplied).1 _ valid _ early)
  obtain ⟨given, substituted, rfl⟩ := Signature.exists_subst late
  obtain ⟨both, each⟩ := exists_forall₂ fun arg mem => (moves.exists_subst typed).2 arg (supplied arg mem)
  have composed := Arg.substAll_eq_ok_iff.2 (each.imp fun _ _ held => held.1)
  refine ⟨given, bind_eq_ok_iff.2 ⟨first, instantiated, substituted⟩, bind_eq_ok_iff.2 ⟨both, composed, ?_⟩⟩
  rw [Scheme.instantiate_eq valid (Arg.checkList_subst built fits composed), Signature.subst_eq_ok_iff]
  exact (subst_comp built composed).1 _ (isBuilt_of_validate.1 _ valid) _ early _ late

/-- What the variables of the function around a `mapping` stand for. -/
def surrounding : List Arg := [.extensions (.ofName "files"), .type (.tuple [])]

theorem Scheme.instantiate_commutes_mapping :
    ∃ given, (mapping.instantiate mapped >>= Signature.subst surrounding) = .ok given ∧
      (Arg.substAll surrounding mapped >>= mapping.instantiate) = .ok given := by
  have supplied : ∀ arg ∈ mapped, arg.validate collections [.extensions, .type .copyable] = .ok () := by
    simp only [mapped, List.forall_mem_cons]
    exact ⟨rfl, rfl, rfl, List.forall_mem_nil _⟩
  exact Scheme.instantiate_commutes boundsFromTypes_collections rfl rfl (by decide) supplied rfl (by decide)

/-- There is an instance for the linear variable of another function, and none for what the variable stands for. -/
theorem Scheme.loses_instance_consuming :
    consuming.validate measured = .ok () ∧ Arg.checkList [.type (.var 0 .linear)] consuming.params = .ok () ∧
      (Arg.type (.var 0 .linear)).validate measured [.type .linear] = .ok () ∧
      Arg.checkList [.type (.tuple [])] [.type .linear] = .ok () ∧
      (∃ first, consuming.instantiate [.type (.var 0 .linear)] = .ok first) ∧
      (¬ ∃ given, (consuming.instantiate [.type (.var 0 .linear)] >>= Signature.subst [.type (.tuple [])]) =
        .ok given) ∧
      ¬ ∃ given, (Arg.substAll [.type (.tuple [])] [.type (.var 0 .linear)] >>= consuming.instantiate) =
        .ok given := by
  refine ⟨rfl, rfl, rfl, rfl, ⟨_, rfl⟩, ?_, ?_⟩
  · rintro ⟨given, made⟩
    cases made
  · rintro ⟨given, made⟩
    cases made

end NestedFlow
