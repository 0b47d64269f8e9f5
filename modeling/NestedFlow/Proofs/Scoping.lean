import NestedFlow.Extension
import NestedFlow.Proofs.ExtensionSet
import NestedFlow.Proofs.Typing

/-! Types, arguments and constants in a scope of variables.

What is well formed in a scope has well formed parts. The result of a substitution contains the arguments of the
variables that are mentioned, so these are well formed if the result is. An argument for a variable that is not
mentioned is lost.
-/

set_option autoImplicit false

namespace NestedFlow

open Outcome

variable {registry : Registry} {scope : List Param}

/-! ### Parts -/

namespace ExtensionSet

theorem validate_eq_ok_iff {set : ExtensionSet} :
    set.validate scope = .ok () ↔ ∀ index ∈ set.indices, checkVariable scope index .extensions = .ok () :=
  forM_eq_ok_iff

/-- What is included in a set has variables of that set only. -/
theorem Included.validate {part set : ExtensionSet} (included : part.Included set)
    (valid : set.validate scope = .ok ()) : part.validate scope = .ok () :=
  validate_eq_ok_iff.2 fun index mem => validate_eq_ok_iff.1 valid index (included.2 index mem)

theorem validate_ofVariable {index : Int} :
    (ofVariable index).validate scope = checkVariable scope index .extensions := by
  rw [ofVariable, ExtensionSet.validate]
  exact bind_pure (checkVariable scope index .extensions)

end ExtensionSet

theorem Row.validate_eq_ok_iff {row : Row} :
    Row.validate registry scope row = .ok () ↔ ∀ ty ∈ row, ty.validate registry scope = .ok () := by
  induction row with
  | nil => simp [Row.validate]
  | cons ty rest ih => rw [Row.validate, andThen_eq_ok_iff, ih, List.forall_mem_cons]

theorem Row.validateAll_eq_ok_iff {rows : List Row} :
    Row.validateAll registry scope rows = .ok () ↔ ∀ row ∈ rows, ∀ ty ∈ row, ty.validate registry scope = .ok () := by
  induction rows with
  | nil => simp [Row.validateAll]
  | cons row rest ih => rw [Row.validateAll, andThen_eq_ok_iff, Row.validate_eq_ok_iff, ih, List.forall_mem_cons]

theorem Arg.validateAll_eq_ok_iff {args : List Arg} :
    Arg.validateAll registry scope args = .ok () ↔ ∀ arg ∈ args, arg.validate registry scope = .ok () := by
  induction args with
  | nil => simp [Arg.validateAll]
  | cons arg rest ih => rw [Arg.validateAll, andThen_eq_ok_iff, ih, List.forall_mem_cons]

theorem Ty.validateAll_of_custom {extension name : String} {args : List Arg} {bound : Bound}
    {boundFrom : Option (List Int)}
    (valid : (Ty.custom extension name args bound boundFrom).validate registry scope = .ok ()) :
    Arg.validateAll registry scope args = .ok () := by
  rw [Ty.validate] at valid
  obtain ⟨_, _, further⟩ := bind_eq_ok_iff.1 valid
  exact (andThen_eq_ok_iff.1 further).1

theorem Ty.validate_function_iff {input output : Row} {reqs : ExtensionSet} :
    (Ty.function input output reqs).validate registry scope = .ok () ↔
      (∀ ty ∈ input, ty.validate registry scope = .ok ()) ∧ (∀ ty ∈ output, ty.validate registry scope = .ok ()) ∧
        reqs.validate scope = .ok () := by
  rw [Ty.validate, andThen_eq_ok_iff, andThen_eq_ok_iff, Row.validate_eq_ok_iff, Row.validate_eq_ok_iff]

theorem Ty.validate_sum_iff {variants : List Row} :
    (Ty.sum variants).validate registry scope = .ok () ↔
      ∀ ty ∈ variants.flatten, ty.validate registry scope = .ok () := by
  rw [Ty.validate, Row.validateAll_eq_ok_iff, List.forall_mem_flatten]

/-! ### Constants -/

mutual

/-- The types of the values of extensions in a constant. -/
def Value.types : Value → Row
  | .sum _ values => Value.allTypes values
  | .tuple values => Value.allTypes values
  | .extension typ _ => [typ]
  | .raw _ => []

def Value.allTypes : List Value → Row
  | [] => []
  | value :: rest => Value.types value ++ Value.allTypes rest

end

mutual

/-- The types in a constant are well formed if it inhabits a type that is. -/
theorem Value.Inhabits.validate_types : ∀ {value : Value} {ty : Ty}, value.Inhabits ty →
    ty.validate registry scope = .ok () → ∀ typ ∈ value.types, typ.validate registry scope = .ok ()
  | _, _, .sum _ found elements, valid => by
    rw [Ty.validate, Row.validateAll_eq_ok_iff] at valid
    rw [Value.types]
    exact elements.validate_types (valid _ (List.mem_of_getElem? found))
  | _, _, .tuple elements, valid => by
    rw [Ty.validate] at valid
    rw [Value.types]
    exact elements.validate_types (Row.validate_eq_ok_iff.1 valid)
  | _, _, .extension, valid => by
    rw [Value.types, List.forall_mem_singleton]
    exact valid

theorem Value.AllInhabit.validate_types : ∀ {values : List Value} {row : Row}, Value.AllInhabit values row →
    (∀ ty ∈ row, ty.validate registry scope = .ok ()) →
    ∀ typ ∈ Value.allTypes values, typ.validate registry scope = .ok ()
  | _, _, .nil, _ => by simp [Value.allTypes]
  | _, _, .cons first rest, valid => by
    rw [List.forall_mem_cons] at valid
    rw [Value.allTypes, List.forall_mem_append]
    exact ⟨first.validate_types valid.1, rest.validate_types valid.2⟩

end

/-! ### Variables -/

mutual

/-- The variables that a type mentions, by their positions. -/
def Ty.variables : Ty → List Int
  | .custom _ _ args _ _ => Arg.allVariables args
  | .sum variants => Row.allVariables variants
  | .tuple row => Row.variables row
  | .function input output reqs => Row.variables input ++ Row.variables output ++ reqs.indices.toList
  | .var index _ => [index]

def Row.variables : List Ty → List Int
  | [] => []
  | ty :: rest => Ty.variables ty ++ Row.variables rest

def Row.allVariables : List (List Ty) → List Int
  | [] => []
  | row :: rest => Row.variables row ++ Row.allVariables rest

def Arg.variables : Arg → List Int
  | .type ty => Ty.variables ty
  | .nat _ | .string _ => []
  | .extensions set => set.indices.toList
  | .sequence elems => Arg.allVariables elems
  | .var index _ => [index]

def Arg.allVariables : List Arg → List Int
  | [] => []
  | arg :: rest => Arg.variables arg ++ Arg.allVariables rest

end

/-- A signature mentions a variable in its rows, or in its requirements if these count. -/
def Signature.Mentions (signature : Signature) (reqs : Prop) (index : Int) : Prop :=
  index ∈ Row.variables signature.input ∨ index ∈ Row.variables signature.output ∨
    (reqs ∧ index ∈ signature.reqs.indices)

/-! ### Substitution -/

theorem Ty.eq_custom_of_instance? {extension name : String} {args : List Arg} {bound : Bound}
    {boundFrom : Option (List Int)} {ty : Ty} (made : Ty.instance? extension name args bound boundFrom = .ok ty) :
    ∃ derived, ty = .custom extension name args derived boundFrom := by
  cases boundFrom with
  | none =>
    cases made
    exact ⟨bound, rfl⟩
  | some positions =>
    obtain ⟨derived, -, same⟩ := bind_eq_ok_iff.1 made
    cases same
    exact ⟨derived, rfl⟩

section

variable {args : List Arg} {position : Nat} {arg : Arg}

theorem eq_of_argumentFor (supplied : args[position]? = some arg) {kind : Param} {found : Arg}
    (asked : argumentFor args position kind = .ok found) :
    found = arg := by
  have nonnegative : ¬ (position : Int) < 0 := by omega
  rw [argumentFor, if_neg nonnegative, Int.toNat_natCast, supplied] at asked
  obtain ⟨-, -, same⟩ := bind_eq_ok_iff.1 asked
  exact (Except.ok.inj same).symm

namespace ExtensionSet

/-- The set that stands for a variable is included in the result. -/
theorem included_substVariables (supplied : args[position]? = some arg) {indices : List Int} {set given : ExtensionSet}
    (made : substVariables args indices set = .ok given) : set.Included given ∧
      ((position : Int) ∈ indices → ∃ part, arg.asExtensions = .ok part ∧ part.Included given) := by
  induction indices generalizing set with
  | nil =>
    cases made
    exact ⟨included_refl _, fun mem => absurd mem List.not_mem_nil⟩
  | cons index rest ih =>
    obtain ⟨found, asked, made⟩ := bind_eq_ok_iff.1 made
    obtain ⟨part, isPart, made⟩ := bind_eq_ok_iff.1 made
    obtain ⟨whole, later⟩ := ih made
    rw [union_included_iff] at whole
    refine ⟨whole.1, fun mem => ?_⟩
    rcases List.mem_cons.1 mem with rfl | mem
    · rw [eq_of_argumentFor supplied asked] at isPart
      exact ⟨part, isPart, whole.2⟩
    · exact later mem

theorem validate_supplied (supplied : args[position]? = some arg) {set given : ExtensionSet}
    (made : set.subst args = .ok given) (valid : given.validate scope = .ok ())
    (mentioned : (position : Int) ∈ set.indices) : arg.validate registry scope = .ok () := by
  obtain ⟨part, isPart, included⟩ := (included_substVariables supplied made).2 (SortedList.mem_toList.2 mentioned)
  have partValid := included.validate valid
  cases arg with
  | extensions own =>
    cases isPart
    rw [Arg.validate]
    exact partValid
  | var index param =>
    cases param with
    | extensions =>
      cases isPart
      rw [Arg.validate, ← validate_ofVariable]
      exact partValid
    | _ => cases isPart
  | _ => cases isPart

end ExtensionSet

mutual

/-- If a type is well formed after the substitution, then so are the arguments for the variables that it mentions. -/
theorem Ty.validate_supplied (supplied : args[position]? = some arg) : ∀ {ty given : Ty}, ty.subst args = .ok given →
    given.validate registry scope = .ok () → (position : Int) ∈ ty.variables → arg.validate registry scope = .ok ()
  | .custom _ _ [] _ _, _, _, _, mentioned => by simp [Ty.variables, Arg.allVariables] at mentioned
  | .custom extension name (first :: rest) bound boundFrom, given, made, valid, mentioned => by
    rw [Ty.subst] at made
    · obtain ⟨own, substituted, made⟩ := bind_eq_ok_iff.1 made
      -- the bound may be another one, but the arguments are those that came about
      obtain ⟨derived, rfl⟩ := Ty.eq_custom_of_instance? made
      rw [Ty.variables] at mentioned
      exact Arg.validate_suppliedAll supplied substituted (Ty.validateAll_of_custom valid) mentioned
    · exact fun same => nomatch same
  | .sum variants, given, made, valid, mentioned => by
    rw [Ty.subst] at made
    obtain ⟨rows, substituted, made⟩ := bind_eq_ok_iff.1 made
    cases made
    rw [Ty.validate] at valid
    rw [Ty.variables] at mentioned
    exact Row.validate_suppliedAll supplied substituted valid mentioned
  | .tuple row, given, made, valid, mentioned => by
    rw [Ty.subst] at made
    obtain ⟨types, substituted, made⟩ := bind_eq_ok_iff.1 made
    cases made
    rw [Ty.validate] at valid
    rw [Ty.variables] at mentioned
    exact Row.validate_supplied supplied substituted valid mentioned
  | .function input output reqs, given, made, valid, mentioned => by
    rw [Ty.subst] at made
    obtain ⟨inputs, inputMade, made⟩ := bind_eq_ok_iff.1 made
    obtain ⟨outputs, outputMade, made⟩ := bind_eq_ok_iff.1 made
    obtain ⟨set, setMade, made⟩ := bind_eq_ok_iff.1 made
    cases made
    rw [Ty.validate, andThen_eq_ok_iff, andThen_eq_ok_iff] at valid
    obtain ⟨inputValid, outputValid, setValid⟩ := valid
    rw [Ty.variables, List.mem_append, List.mem_append, SortedList.mem_toList] at mentioned
    rcases mentioned with (inInput | inOutput) | inSet
    · exact Row.validate_supplied supplied inputMade inputValid inInput
    · exact Row.validate_supplied supplied outputMade outputValid inOutput
    · exact ExtensionSet.validate_supplied supplied setMade setValid inSet
  | .var index bound, given, made, valid, mentioned => by
    rw [Ty.variables, List.mem_singleton] at mentioned
    rw [Ty.subst, ← mentioned] at made
    obtain ⟨found, asked, made⟩ := bind_eq_ok_iff.1 made
    rw [eq_of_argumentFor supplied asked] at made
    cases arg with
    | type ty =>
      cases made
      rw [Arg.validate]
      exact valid
    | _ => cases made

theorem Row.validate_supplied (supplied : args[position]? = some arg) : ∀ {row given : List Ty},
    Row.subst args row = .ok given → Row.validate registry scope given = .ok () →
    (position : Int) ∈ Row.variables row → arg.validate registry scope = .ok ()
  | [], _, _, _, mentioned => by simp [Row.variables] at mentioned
  | ty :: rest, given, made, valid, mentioned => by
    rw [Row.subst] at made
    obtain ⟨first, firstMade, made⟩ := bind_eq_ok_iff.1 made
    obtain ⟨others, othersMade, made⟩ := bind_eq_ok_iff.1 made
    cases made
    rw [Row.validate, andThen_eq_ok_iff] at valid
    rw [Row.variables, List.mem_append] at mentioned
    rcases mentioned with inFirst | inRest
    · exact Ty.validate_supplied supplied firstMade valid.1 inFirst
    · exact Row.validate_supplied supplied othersMade valid.2 inRest

theorem Row.validate_suppliedAll (supplied : args[position]? = some arg) : ∀ {rows given : List (List Ty)},
    Row.substAll args rows = .ok given → Row.validateAll registry scope given = .ok () →
    (position : Int) ∈ Row.allVariables rows → arg.validate registry scope = .ok ()
  | [], _, _, _, mentioned => by simp [Row.allVariables] at mentioned
  | row :: rest, given, made, valid, mentioned => by
    rw [Row.substAll] at made
    obtain ⟨first, firstMade, made⟩ := bind_eq_ok_iff.1 made
    obtain ⟨others, othersMade, made⟩ := bind_eq_ok_iff.1 made
    cases made
    rw [Row.validateAll, andThen_eq_ok_iff] at valid
    rw [Row.allVariables, List.mem_append] at mentioned
    rcases mentioned with inFirst | inRest
    · exact Row.validate_supplied supplied firstMade valid.1 inFirst
    · exact Row.validate_suppliedAll supplied othersMade valid.2 inRest

theorem Arg.validate_supplied (supplied : args[position]? = some arg) : ∀ {own given : Arg},
    own.subst args = .ok given → given.validate registry scope = .ok () → (position : Int) ∈ own.variables →
    arg.validate registry scope = .ok ()
  | .type ty, given, made, valid, mentioned => by
    rw [Arg.subst] at made
    obtain ⟨inner, innerMade, made⟩ := bind_eq_ok_iff.1 made
    cases made
    rw [Arg.validate] at valid
    rw [Arg.variables] at mentioned
    exact Ty.validate_supplied supplied innerMade valid mentioned
  | .nat _, _, _, _, mentioned => by simp [Arg.variables] at mentioned
  | .string _, _, _, _, mentioned => by simp [Arg.variables] at mentioned
  | .extensions set, given, made, valid, mentioned => by
    rw [Arg.subst] at made
    obtain ⟨inner, innerMade, made⟩ := bind_eq_ok_iff.1 made
    cases made
    rw [Arg.validate] at valid
    rw [Arg.variables, SortedList.mem_toList] at mentioned
    exact ExtensionSet.validate_supplied supplied innerMade valid mentioned
  | .sequence elems, given, made, valid, mentioned => by
    rw [Arg.subst] at made
    obtain ⟨inner, innerMade, made⟩ := bind_eq_ok_iff.1 made
    cases made
    rw [Arg.validate] at valid
    rw [Arg.variables] at mentioned
    exact Arg.validate_suppliedAll supplied innerMade valid mentioned
  | .var index param, given, made, valid, mentioned => by
    rw [Arg.variables, List.mem_singleton] at mentioned
    rw [Arg.subst, ← mentioned] at made
    rw [← eq_of_argumentFor supplied made]
    exact valid

theorem Arg.validate_suppliedAll (supplied : args[position]? = some arg) : ∀ {others given : List Arg},
    Arg.substAll args others = .ok given → Arg.validateAll registry scope given = .ok () →
    (position : Int) ∈ Arg.allVariables others → arg.validate registry scope = .ok ()
  | [], _, _, _, mentioned => by simp [Arg.allVariables] at mentioned
  | first :: rest, given, made, valid, mentioned => by
    rw [Arg.substAll] at made
    obtain ⟨one, firstMade, made⟩ := bind_eq_ok_iff.1 made
    obtain ⟨others, othersMade, made⟩ := bind_eq_ok_iff.1 made
    cases made
    rw [Arg.validateAll, andThen_eq_ok_iff] at valid
    rw [Arg.allVariables, List.mem_append] at mentioned
    rcases mentioned with inFirst | inRest
    · exact Arg.validate_supplied supplied firstMade valid.1 inFirst
    · exact Arg.validate_suppliedAll supplied othersMade valid.2 inRest

end

/-- The arguments of an instance are well formed where the signature mentions them. -/
theorem Scheme.validate_supplied (supplied : args[position]? = some arg) {scheme : Scheme} {given : Signature}
    (made : scheme.instantiate args = .ok given)
    (input : ∀ ty ∈ given.input, ty.validate registry scope = .ok ())
    (output : ∀ ty ∈ given.output, ty.validate registry scope = .ok ())
    {reqs : Prop} (required : reqs → given.reqs.validate scope = .ok ())
    (mentioned : scheme.body.Mentions reqs position) : arg.validate registry scope = .ok () := by
  rw [Scheme.instantiate, Arg.checkList] at made
  obtain ⟨_, fits, made⟩ := bind_eq_ok_iff.1 made
  split at made
  · -- without parameters there are no arguments
    rename_i none
    split at fits
    · rename_i same
      rw [List.isEmpty_iff.1 none, List.length_nil, List.length_eq_zero_iff] at same
      rw [same] at supplied
      cases supplied
    · cases fits
  · obtain ⟨inputs, inputMade, made⟩ := bind_eq_ok_iff.1 made
    obtain ⟨outputs, outputMade, made⟩ := bind_eq_ok_iff.1 made
    obtain ⟨set, setMade, made⟩ := bind_eq_ok_iff.1 made
    cases made
    rcases mentioned with inInput | inOutput | ⟨counts, inReqs⟩
    · exact Row.validate_supplied supplied inputMade (Row.validate_eq_ok_iff.2 input) inInput
    · exact Row.validate_supplied supplied outputMade (Row.validate_eq_ok_iff.2 output) inOutput
    · exact ExtensionSet.validate_supplied supplied setMade (required counts) inReqs

end

end NestedFlow
