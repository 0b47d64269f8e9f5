import Mathlib.Data.List.Forall2
import NestedFlow.Proofs.Scoping

/-! Static arguments against their parameters.

What a parameter accepts is stated by the kind of the argument. An argument that fits a parameter fits every larger one,
so a variable may stand for any argument that fits its declaration. The bound that a custom type takes from its
arguments is known when the arguments at those positions are types.
-/

set_option autoImplicit false

namespace NestedFlow

open Outcome

/-! ### Lists of outcomes -/

section

variable {α β : Type} {first : List α} {second : List β}

/-- What relates two lists may be changed item by item, where the items are known to come from the first list. -/
theorem forall₂_of_mem {before after : α → β → Prop} (related : List.Forall₂ before first second)
    (each : ∀ x ∈ first, ∀ y, before x y → after x y) : List.Forall₂ after first second := by
  rw [List.forall₂_iff_zip] at related ⊢
  exact ⟨related.1, fun mem => each _ (List.of_mem_zip mem).1 _ (related.2 mem)⟩

/-- Every item of the second list is related to one of the first. -/
theorem exists_of_forall₂ {relation : α → β → Prop} (related : List.Forall₂ relation first second) {y : β}
    (mem : y ∈ second) : ∃ x ∈ first, relation x y := by
  induction related with
  | nil => cases mem
  | cons held _ ih =>
    rcases List.mem_cons.1 mem with rfl | mem
    · exact ⟨_, List.mem_cons_self, held⟩
    · obtain ⟨x, isItem, held⟩ := ih mem
      exact ⟨x, List.mem_cons_of_mem _ isItem, held⟩

/-- The second list has what everything has that is related to an item of the first. -/
theorem forall_mem_of_forall₂ {relation : α → β → Prop} {claim : β → Prop}
    (related : List.Forall₂ relation first second) (each : ∀ x ∈ first, ∀ y, relation x y → claim y) :
    ∀ y ∈ second, claim y := by
  intro y mem
  obtain ⟨x, isItem, held⟩ := exists_of_forall₂ related mem
  exact each x isItem y held

/-- If every item of a list is related to something, then the list is related to another one. -/
theorem exists_forall₂ {relation : α → β → Prop} (each : ∀ x ∈ first, ∃ y, relation x y) :
    ∃ others, List.Forall₂ relation first others := by
  induction first with
  | nil => exact ⟨[], .nil⟩
  | cons x rest ih =>
    obtain ⟨here, further⟩ := List.forall_mem_cons.1 each
    obtain ⟨y, held⟩ := here
    obtain ⟨others, related⟩ := ih further
    exact ⟨y :: others, .cons held related⟩

/-- An item of the first list is related to the one at the same place. -/
theorem getElem?_of_forall₂ {relation : α → β → Prop} (related : List.Forall₂ relation first second) {place : Nat}
    {x : α} (found : first[place]? = some x) : ∃ y, second[place]? = some y ∧ relation x y := by
  induction related generalizing place with
  | nil => cases found
  | cons held _ ih =>
    cases place with
    | zero =>
      cases found
      exact ⟨_, rfl, held⟩
    | succ place => exact ih found

/-- So it is for places that are counted from the end. -/
theorem itemAt?_of_forall₂ {relation : α → β → Prop} (related : List.Forall₂ relation first second) {position : Int}
    {x : α} (found : itemAt? first position = some x) : ∃ y, itemAt? second position = some y ∧ relation x y := by
  simp only [itemAt?, related.length_eq] at found ⊢
  generalize (if position < 0 then position + (second.length : Int) else position) = place at found ⊢
  split at found
  · cases found
  · rename_i inside
    rw [if_neg inside]
    exact getElem?_of_forall₂ related found

theorem Outcome.mapM_eq_ok_iff_forall₂ {question : α → Outcome β} :
    first.mapM question = .ok second ↔ List.Forall₂ (fun item answer => question item = .ok answer) first second := by
  rw [mapM_eq_ok_iff, ← List.forall₂_eq_eq_eq, List.forall₂_map_left_iff, List.forall₂_map_right_iff]

/-- What holds of an answer holds of the answer to one of the questions. -/
theorem exists_answer_iff {question : α → Outcome β}
    (answered : List.Forall₂ (fun item answer => question item = .ok answer) first second) {held : β → Prop} :
    (∃ answer ∈ second, held answer) ↔ ∃ item ∈ first, ∃ answer, question item = .ok answer ∧ held answer := by
  constructor
  · rintro ⟨answer, mem, isHeld⟩
    obtain ⟨item, isItem, found⟩ := exists_of_forall₂ answered mem
    exact ⟨item, isItem, answer, found, isHeld⟩
  · rintro ⟨item, isItem, answer, found, isHeld⟩
    obtain ⟨other, mem, same⟩ := exists_of_forall₂ answered.flip isItem
    cases found.symm.trans same
    exact ⟨answer, mem, isHeld⟩

end

/-! ### Bounds -/

namespace Bound

theorem contains_refl (bound : Bound) : bound.contains bound = true := by cases bound <;> rfl

theorem contains_trans {large middle small : Bound} (upper : large.contains middle = true)
    (lower : middle.contains small = true) : large.contains small = true := by
  cases large <;> cases middle <;> simp_all [contains]

theorem contains_max {left right other further : Bound} (first : left.contains other = true)
    (second : right.contains further = true) : (left.max right).contains (other.max further) = true := by
  cases left <;> cases other <;> simp_all [contains, max]

end Bound

/-! ### Parameters -/

namespace Param

variable {param : Param}

theorem contains_type_iff {bound : Bound} :
    param.contains (.type bound) = true ↔ ∃ larger, param = .type larger ∧ larger.contains bound = true := by
  cases param <;> simp [contains]

theorem contains_nat_iff {upper : Option Int} :
    param.contains (.nat upper) = true ↔
      ∃ larger, param = .nat larger ∧ ∀ limit ∈ larger, ∃ other ∈ upper, other ≤ limit := by
  cases param with
  | nat larger => cases larger <;> cases upper <;> simp [contains]
  | _ => simp [contains]

theorem contains_string_iff : param.contains .string = true ↔ param = .string := by
  cases param <;> simp [contains]

theorem contains_extensions_iff : param.contains .extensions = true ↔ param = .extensions := by
  cases param <;> simp [contains]

theorem contains_list_iff {elem : Param} :
    param.contains (.list elem) = true ↔ ∃ larger, param = .list larger ∧ larger.contains elem = true := by
  cases param <;> simp [contains]

theorem contains_trans {large middle small : Param} (upper : large.contains middle = true)
    (lower : middle.contains small = true) : large.contains small = true := by
  induction small generalizing large middle with
  | type bound =>
    obtain ⟨between, rfl, below⟩ := contains_type_iff.1 lower
    obtain ⟨larger, rfl, above⟩ := contains_type_iff.1 upper
    exact contains_type_iff.2 ⟨larger, rfl, Bound.contains_trans above below⟩
  | nat limit =>
    obtain ⟨between, rfl, below⟩ := contains_nat_iff.1 lower
    obtain ⟨larger, rfl, above⟩ := contains_nat_iff.1 upper
    refine contains_nat_iff.2 ⟨larger, rfl, fun most isMost => ?_⟩
    -- a larger parameter may lack the limit, and otherwise the limits ascend
    obtain ⟨middle, isMiddle, within⟩ := above most isMost
    obtain ⟨least, isLeast, further⟩ := below middle isMiddle
    exact ⟨least, isLeast, Int.le_trans further within⟩
  | string => exact contains_string_iff.1 lower ▸ upper
  | extensions => exact contains_extensions_iff.1 lower ▸ upper
  | list elem ih =>
    obtain ⟨between, rfl, below⟩ := contains_list_iff.1 lower
    obtain ⟨larger, rfl, above⟩ := contains_list_iff.1 upper
    exact contains_list_iff.2 ⟨larger, rfl, ih above below⟩

end Param

/-! ### What fits a parameter -/

namespace Arg

variable {param : Param}

theorem check_var_iff {index : Int} {declared : Param} :
    (var index declared).check param = .ok () ↔ param.contains declared = true := by
  rw [check]
  split <;> simp_all [fail]

theorem check_type_iff {ty : Ty} :
    (type ty).check param = .ok () ↔ ∃ bound, param = .type bound ∧ bound.contains ty.bound = true := by
  cases param with
  | type bound =>
    rw [check]
    split <;> simp_all [fail]
  | _ => simp [check, fail]

theorem check_nat_iff {value : Int} :
    (nat value).check param = .ok () ↔ ∃ upper, param = .nat upper ∧ 0 ≤ value ∧ ∀ limit ∈ upper, value < limit := by
  cases param with
  | nat upper =>
    rw [check]
    cases upper <;> simp [fail]
  | _ => simp [check, fail]

theorem check_string_iff {value : String} : (string value).check param = .ok () ↔ param = .string := by
  cases param <;> simp [check, fail]

theorem check_extensions_iff {set : ExtensionSet} : (extensions set).check param = .ok () ↔ param = .extensions := by
  cases param <;> simp [check, fail]

theorem checkEach_eq_ok_iff {elems : List Arg} :
    checkEach elems param = .ok () ↔ ∀ elem ∈ elems, elem.check param = .ok () := by
  induction elems with
  | nil => simp [checkEach]
  | cons elem rest ih => rw [checkEach, andThen_eq_ok_iff, ih, List.forall_mem_cons]

theorem check_sequence_iff {elems : List Arg} :
    (sequence elems).check param = .ok () ↔
      ∃ kind, param = .list kind ∧ ∀ elem ∈ elems, elem.check kind = .ok () := by
  cases param with
  | list kind => simp [check, checkEach_eq_ok_iff]
  | _ => simp [check, fail]

theorem checkList_eq_ok_iff {args : List Arg} {params : List Param} :
    checkList args params = .ok () ↔ List.Forall₂ (fun arg param => arg.check param = .ok ()) args params := by
  have zipped : ∀ {args : List Arg} {params : List Param}, args.length = params.length →
      (checkZip args params = .ok () ↔ List.Forall₂ (fun arg param => arg.check param = .ok ()) args params) := by
    intro args
    induction args with
    | nil =>
      intro params same
      rw [List.length_eq_zero_iff.1 same.symm]
      simp [checkZip]
    | cons arg rest ih =>
      intro params same
      cases params with
      | nil => cases same
      | cons param others => rw [checkZip, andThen_eq_ok_iff, ih (Nat.succ.inj same), List.forall₂_cons]
  rw [checkList]
  split
  · exact zipped ‹_›
  · rename_i differ
    constructor
    · intro failed
      cases failed
    · exact fun fits => absurd fits.length_eq differ

/-- What fits a parameter fits every parameter that contains it. -/
theorem check_of_contains : ∀ {arg : Arg} {large small : Param}, large.contains small = true →
    arg.check small = .ok () → arg.check large = .ok ()
  | .var _ _, _, _, larger, fits => check_var_iff.2 (Param.contains_trans larger (check_var_iff.1 fits))
  | .type _, _, _, larger, fits => by
    obtain ⟨bound, rfl, below⟩ := check_type_iff.1 fits
    obtain ⟨upper, rfl, above⟩ := Param.contains_type_iff.1 larger
    exact check_type_iff.2 ⟨upper, rfl, Bound.contains_trans above below⟩
  | .nat _, _, _, larger, fits => by
    obtain ⟨limit, rfl, natural, below⟩ := check_nat_iff.1 fits
    obtain ⟨upper, rfl, above⟩ := Param.contains_nat_iff.1 larger
    refine check_nat_iff.2 ⟨upper, rfl, natural, fun most isMost => ?_⟩
    obtain ⟨least, isLeast, within⟩ := above most isMost
    exact Int.lt_of_lt_of_le (below least isLeast) within
  | .string _, _, _, larger, fits => by
    obtain rfl := check_string_iff.1 fits
    exact check_string_iff.2 (Param.contains_string_iff.1 larger)
  | .extensions _, _, _, larger, fits => by
    obtain rfl := check_extensions_iff.1 fits
    exact check_extensions_iff.2 (Param.contains_extensions_iff.1 larger)
  | .sequence elems, _, _, larger, fits => by
    obtain ⟨kind, rfl, each⟩ := check_sequence_iff.1 fits
    obtain ⟨upper, rfl, above⟩ := Param.contains_list_iff.1 larger
    exact check_sequence_iff.2 ⟨upper, rfl, fun elem mem => check_of_contains above (each elem mem)⟩
termination_by arg => sizeOf arg

/-- Whether an argument is a variable that is declared as a type. It fits where a type is expected, and still is none: a
type variable is used as a type, which is an argument of its own. -/
def isTypeVariable : Arg → Bool
  | .var _ (.type _) => true
  | _ => false

/-- Otherwise what fits a parameter for types is a type. -/
theorem exists_type {arg : Arg} {bound : Bound} (fits : arg.check (.type bound) = .ok ())
    (plain : arg.isTypeVariable = false) : ∃ ty, arg = .type ty := by
  cases arg with
  | type ty => exact ⟨ty, rfl⟩
  | var index declared =>
    have held := check_var_iff.1 fits
    cases declared <;> simp_all [Param.contains, isTypeVariable]
  | _ => cases fits

/-- What fits a parameter for sets of extensions is a set. -/
theorem exists_set {arg : Arg} (fits : arg.check .extensions = .ok ()) : ∃ set, arg.asExtensions = .ok set := by
  cases arg with
  | extensions set => exact ⟨set, rfl⟩
  | var index declared =>
    have held := check_var_iff.1 fits
    cases declared <;> simp_all [Param.contains, asExtensions]
  | _ => cases fits

end Arg

/-! ### Variables -/

section

variable {scope : List Param} {args : List Arg} {index : Int} {kind : Param}

theorem checkVariable_eq_ok_iff :
    checkVariable scope index kind = .ok () ↔ 0 ≤ index ∧ scope[index.toNat]? = some kind := by
  rw [checkVariable]
  by_cases negative : index < 0
  · simp [negative, Int.not_le.2 negative, fail]
  · rw [if_neg negative]
    cases scope[index.toNat]? with
    | none => simp [fail]
    | some declared =>
      by_cases same : declared = kind <;> simp [same, fail]
      omega

theorem argumentFor_eq_ok_iff {arg : Arg} :
    argumentFor args index kind = .ok arg ↔
      0 ≤ index ∧ args[index.toNat]? = some arg ∧ arg.check kind = .ok () := by
  rw [argumentFor]
  by_cases negative : index < 0
  · simp [negative, Int.not_le.2 negative, fail]
  · rw [if_neg negative]
    cases args[index.toNat]? with
    | none => simp [fail]
    | some other =>
      simp only [bind_eq_ok_iff, pure_eq, Except.ok.injEq, Option.some.injEq]
      constructor
      · rintro ⟨_, fits, rfl⟩
        exact ⟨by omega, rfl, fits⟩
      · rintro ⟨_, rfl, fits⟩
        exact ⟨(), fits, rfl⟩

end

/-- Arguments for all variables of a scope: they fit the declarations, and where a type is declared there is one. -/
structure Supplies (args : List Arg) (scope : List Param) : Prop where
  fits : Arg.checkList args scope = .ok ()
  plain : ∀ arg ∈ args, arg.isTypeVariable = false

theorem Supplies.exists_argument {args : List Arg} {scope : List Param} (supplies : Supplies args scope) {index : Int}
    {kind : Param} (declared : checkVariable scope index kind = .ok ()) :
    ∃ arg, argumentFor args index kind = .ok arg ∧ arg.isTypeVariable = false := by
  obtain ⟨natural, found⟩ := checkVariable_eq_ok_iff.1 declared
  obtain ⟨arg, supplied, fits⟩ := getElem?_of_forall₂ (Arg.checkList_eq_ok_iff.1 supplies.fits).flip found
  exact ⟨arg, argumentFor_eq_ok_iff.2 ⟨natural, supplied, fits⟩, supplies.plain arg (List.mem_of_getElem? supplied)⟩

/-! ### Bounds from arguments -/

section

variable {args : List Arg} {positions : List Int} {position : Int}

theorem derivedBound_cons_of_le (beyond : (args.length : Int) ≤ position) :
    derivedBound args (position :: positions) = derivedBound args positions := by
  rw [derivedBound, if_pos beyond]

theorem derivedBound_cons_of_type {ty : Ty} (inside : position < args.length)
    (found : itemAt? args position = some (.type ty)) :
    derivedBound args (position :: positions) = if ty.isLinear then .ok .linear else derivedBound args positions := by
  rw [derivedBound, if_neg (Int.not_le.2 inside), found]
  rfl

/-- The bound is known if there are types at the positions. -/
theorem exists_derivedBound (typed : ∀ position ∈ positions, position < args.length →
    ∃ ty, itemAt? args position = some (.type ty)) : ∃ bound, derivedBound args positions = .ok bound := by
  induction positions with
  | nil => exact ⟨.copyable, rfl⟩
  | cons position rest ih =>
    obtain ⟨here, further⟩ := List.forall_mem_cons.1 typed
    rcases Int.lt_or_le position args.length with inside | beyond
    · obtain ⟨ty, found⟩ := here inside
      rw [derivedBound_cons_of_type inside found]
      split
      · exact ⟨.linear, rfl⟩
      · exact ih further
    · rw [derivedBound_cons_of_le beyond]
      exact ih further

/-- The bound is copyable exactly if there are copyable types at the positions. -/
theorem derivedBound_eq_copyable_iff :
    derivedBound args positions = .ok .copyable ↔ ∀ position ∈ positions, position < args.length →
      ∃ ty, itemAt? args position = some (.type ty) ∧ ty.bound = .copyable := by
  induction positions with
  | nil => simp [derivedBound]
  | cons position rest ih =>
    rw [List.forall_mem_cons, ← ih]
    rcases Int.lt_or_le position args.length with inside | beyond
    · simp only [inside, true_imp_iff]
      rw [derivedBound, if_neg (Int.not_le.2 inside)]
      cases found : itemAt? args position with
      | none => simp [fail]
      | some arg =>
        cases arg with
        | type ty => cases bound : ty.bound <;> simp [Arg.asType, Ty.isLinear, bound]
        | _ => simp [Arg.asType, fail]
    · simp [derivedBound_cons_of_le beyond, Int.not_lt.2 beyond]

end

end NestedFlow
