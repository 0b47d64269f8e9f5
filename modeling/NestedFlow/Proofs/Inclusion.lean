import NestedFlow.Proofs.Arguments

/-! Containment of parameters is inclusion of what they accept.

A variable is accepted for the parameter that it is declared as, so variables alone tell any two parameters apart.
Arguments without variables do so as well, unless a limit leaves no number: a list of numbers below zero is empty.
-/

set_option autoImplicit false

namespace NestedFlow

theorem Arg.allVariables_eq_nil_iff {args : List Arg} : allVariables args = [] ↔ ∀ arg ∈ args, arg.variables = [] := by
  induction args with
  | nil => simp [allVariables]
  | cons arg rest ih => rw [allVariables, List.append_eq_nil_iff, ih, List.forall_mem_cons]

namespace Param

theorem contains_refl (param : Param) : param.contains param = true := by
  induction param with
  | type bound => exact contains_type_iff.2 ⟨bound, rfl, bound.contains_refl⟩
  | nat upper => exact contains_nat_iff.2 ⟨upper, rfl, fun limit isLimit => ⟨limit, isLimit, Int.le_refl limit⟩⟩
  | string => rfl
  | extensions => rfl
  | list elem ih => exact contains_list_iff.2 ⟨elem, rfl, ih⟩

/-- One parameter contains another one exactly if it accepts every argument that the other accepts. -/
theorem contains_iff_accepts {large small : Param} :
    large.contains small = true ↔ ∀ arg : Arg, arg.check small = .ok () → arg.check large = .ok () := by
  constructor
  · intro larger arg fits
    exact Arg.check_of_contains larger fits
  · intro accepts
    -- a variable that is declared as the second parameter is accepted by what contains this one, and by nothing else
    have declared : (Arg.var 0 small).check small = .ok () := Arg.check_var_iff.2 small.contains_refl
    exact Arg.check_var_iff.1 (accepts (.var 0 small) declared)

/-! ### Arguments without variables -/

/-- Whether all limits of numbers, at any depth, leave some number. -/
def isPopulated : Param → Bool
  | .nat (some limit) => decide (0 < limit)
  | .list elem => elem.isPopulated
  | _ => true

/-- A parameter that accepts what a populated one accepts of the arguments without variables contains it. -/
theorem contains_of_accepts_literals {large small : Param} (populated : small.isPopulated = true)
    (accepts : ∀ arg : Arg, arg.variables = [] → arg.check small = .ok () → arg.check large = .ok ()) :
    large.contains small = true := by
  induction small generalizing large with
  | type bound =>
    -- a type with the bound itself
    have fits : (Arg.type (.custom "" "" [] bound none)).check (.type bound) = .ok () :=
      Arg.check_type_iff.2 ⟨bound, rfl, bound.contains_refl⟩
    obtain ⟨larger, rfl, within⟩ := Arg.check_type_iff.1 (accepts _ rfl fits)
    exact contains_type_iff.2 ⟨larger, rfl, within⟩
  | nat upper =>
    have below : ∀ value : Int, 0 ≤ value → (∀ limit ∈ upper, value < limit) →
        ∃ larger, large = .nat larger ∧ 0 ≤ value ∧ ∀ most ∈ larger, value < most :=
      fun value natural inside => Arg.check_nat_iff.1 (accepts (.nat value) rfl (Arg.check_nat_iff.2
        ⟨upper, rfl, natural, inside⟩))
    cases upper with
    | none =>
      -- without a limit there are numbers beyond every other limit
      obtain ⟨larger, rfl, -⟩ := below 0 (Int.le_refl 0) (by simp)
      refine contains_nat_iff.2 ⟨larger, rfl, fun most isMost => ?_⟩
      obtain ⟨_, same, -, inside⟩ := below (max most 0) (by omega) (by simp)
      cases same
      have beyond := inside most isMost
      omega
    | some limit =>
      -- the last number below the limit
      rw [isPopulated, decide_eq_true_iff] at populated
      have last : ∀ other ∈ some limit, limit - 1 < other := by
        rintro _ ⟨⟩
        omega
      obtain ⟨larger, rfl, -, inside⟩ := below (limit - 1) (by omega) last
      refine contains_nat_iff.2 ⟨larger, rfl, fun most isMost => ⟨limit, rfl, ?_⟩⟩
      have beyond := inside most isMost
      omega
  | string => exact contains_string_iff.2 (Arg.check_string_iff.1 (accepts (.string "") rfl rfl))
  | extensions => exact contains_extensions_iff.2 (Arg.check_extensions_iff.1 (accepts (.extensions ∅) rfl rfl))
  | list elem ih =>
    have each : ∀ elems : List Arg, (∀ arg ∈ elems, arg.variables = []) → (∀ arg ∈ elems, arg.check elem = .ok ()) →
        ∃ kind, large = .list kind ∧ ∀ arg ∈ elems, arg.check kind = .ok () := by
      intro elems plain fits
      apply Arg.check_sequence_iff.1
      apply accepts
      · rwa [Arg.variables, Arg.allVariables_eq_nil_iff]
      · exact Arg.check_sequence_iff.2 ⟨elem, rfl, fits⟩
    obtain ⟨kind, rfl, -⟩ := each [] (List.forall_mem_nil _) (List.forall_mem_nil _)
    -- the lists with one element tell the kinds of the elements apart
    refine contains_list_iff.2 ⟨kind, rfl, ih populated fun arg plain fits => ?_⟩
    obtain ⟨_, same, accepted⟩ := each [arg] (List.forall_mem_singleton.2 plain) (List.forall_mem_singleton.2 fits)
    cases same
    exact accepted arg List.mem_cons_self

/-- The condition is needed: any other parameter has one beside it that accepts as much without variables. -/
theorem exists_not_contains {small : Param} (unpopulated : small.isPopulated = false) :
    ∃ large : Param, large.contains small = false ∧
      ∀ arg : Arg, arg.variables = [] → arg.check small = .ok () → arg.check large = .ok () := by
  induction small with
  | nat upper =>
    cases upper with
    | none => cases unpopulated
    | some limit =>
      rw [isPopulated, decide_eq_false_iff_not] at unpopulated
      -- no number is below the bound, so that any other parameter accepts as much
      refine ⟨.string, rfl, fun arg plain fits => ?_⟩
      cases arg with
      | nat value =>
        obtain ⟨_, same, natural, below⟩ := Arg.check_nat_iff.1 fits
        cases same
        have least := below limit rfl
        omega
      | var index declared =>
        rw [Arg.variables] at plain
        cases plain
      | _ => cases fits
  | list elem ih =>
    obtain ⟨large, apart, accepts⟩ := ih unpopulated
    refine ⟨.list large, apart, fun arg plain fits => ?_⟩
    cases arg with
    | sequence elems =>
      obtain ⟨_, same, each⟩ := Arg.check_sequence_iff.1 fits
      cases same
      rw [Arg.variables, Arg.allVariables_eq_nil_iff] at plain
      exact Arg.check_sequence_iff.2 ⟨large, rfl, fun arg mem => accepts arg (plain arg mem) (each arg mem)⟩
    | var index declared =>
      rw [Arg.variables] at plain
      cases plain
    | _ => cases fits
  | _ => cases unpopulated

end Param

end NestedFlow
