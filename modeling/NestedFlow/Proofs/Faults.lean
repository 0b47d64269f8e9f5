import NestedFlow.Extension
import NestedFlow.Proofs.Outcome

/-! The faults that checks, substitution and instantiation fail with.

Checks of static arguments, types and constants, and the instantiation of signatures, fail with faults of their own
kinds. Only a rule that computes a signature may raise any fault. Breakdowns come from numbers with too many digits for
a message, and from positions of a bound that lie before the first argument; both can be told from the types, arguments
and definitions that are involved.
-/

set_option autoImplicit false

namespace NestedFlow

open Outcome

/-! ### What can break down -/

/-- The breakdown, unless something holds. -/
def riskUnless (held : Bool) (cause : Breakdown) : List Breakdown := if held then [] else [cause]

def Text.risks (number : Int) : List Breakdown := riskUnless (isWritable number) .value

def Param.risks (param : Param) : List Breakdown := riskUnless param.isWritable .value

def ExtensionSet.risks (set : ExtensionSet) : List Breakdown := set.indices.toList.flatMap Text.risks

/-- Positions of a bound count back from the end of the arguments no further than to the first. -/
def positionRisks (count : Nat) (positions : List Int) : List Breakdown :=
  riskUnless (positions.all fun position => decide (-(count : Int) ≤ position)) .position

mutual

/-- The breakdowns that a type can cause: when arguments are substituted in it, and when it is part of a message. -/
def Ty.risks : Ty → List Breakdown
  | .custom _ _ args _ boundFrom => positionRisks args.length (boundFrom.getD []) ++ Arg.risksOfAll args
  | .sum variants => Row.risksOfAll variants
  | .tuple row => Row.risks row
  | .function input output reqs => Row.risks input ++ Row.risks output ++ reqs.risks
  | .var index _ => Text.risks index

def Row.risks : List Ty → List Breakdown
  | [] => []
  | ty :: rest => ty.risks ++ Row.risks rest

def Row.risksOfAll : List (List Ty) → List Breakdown
  | [] => []
  | row :: rest => Row.risks row ++ Row.risksOfAll rest

def Arg.risks : Arg → List Breakdown
  | .type ty => ty.risks
  | .nat value => Text.risks value
  | .string _ => []
  | .extensions set => set.risks
  | .sequence elems => Arg.risksOfAll elems
  | .var index param => Text.risks index ++ param.risks

def Arg.risksOfAll : List Arg → List Breakdown
  | [] => []
  | arg :: rest => arg.risks ++ Arg.risksOfAll rest

end

/-- Nothing is substituted in a signature without parameters. -/
def Scheme.risks (scheme : Scheme) : List Breakdown :=
  if scheme.params.isEmpty then [] else scheme.params.flatMap Param.risks ++ scheme.body.toTy.risks

def SignatureFault.risks (fault : SignatureFault) : List Breakdown := riskUnless fault.isWritable .value

/-! ### Faults that are reported -/

section

variable {allowed : Breakdown → Prop}

/-- All breakdowns of a list are allowed. -/
abbrev Harmless (allowed : Breakdown → Prop) (risks : List Breakdown) : Prop := ∀ cause ∈ risks, allowed cause

/-- An error of a signature, which has a text, and no place. -/
def Error.IsMisfit (allowed : Breakdown → Prop) (error : Error) : Prop :=
  ∃ cause, error = .bare (.signature cause) ∧ Harmless allowed cause.risks

abbrev FailsFitting {α : Type} (allowed : Breakdown → Prop) (outcome : Outcome α) : Prop :=
  outcome.FailsOnly (Error.IsMisfit allowed)

/-- Failures are over what does not fit, and answers have a property. -/
abbrev Fits {α : Type} (allowed : Breakdown → Prop) (good : α → Prop) (outcome : Outcome α) : Prop :=
  outcome.Meets good (Error.IsMisfit allowed)

/-- The fault is one of a signature, which has a text, or of an extension; or else a position of a bound before the
first argument, if that is allowed. -/
def Fault.IsReported (allowed : Breakdown → Prop) : Fault → Prop
  | .signature cause => Harmless allowed cause.risks
  | .extensionNotFound _ | .operationNotFound _ _ => True
  | .breakdown cause => cause = .position ∧ allowed cause
  | _ => False

/-- A reported fault that has no place. -/
structure Error.IsReported (allowed : Breakdown → Prop) (error : Error) : Prop where
  bare : error.place = none
  reported : error.fault.IsReported allowed

abbrev FailsReported {α : Type} (allowed : Breakdown → Prop) (outcome : Outcome α) : Prop :=
  outcome.FailsOnly (Error.IsReported allowed)

/-- Failures are reported, and answers have a property. -/
abbrev Reports {α : Type} (allowed : Breakdown → Prop) (good : α → Prop) (outcome : Outcome α) : Prop :=
  outcome.Meets good (Error.IsReported allowed)

theorem isMisfit_bare {cause : SignatureFault} (safe : Harmless allowed cause.risks) :
    (Error.bare (.signature cause)).IsMisfit allowed := ⟨cause, rfl, safe⟩

theorem isReported_of_isMisfit {error : Error} (misfit : error.IsMisfit allowed) : error.IsReported allowed := by
  obtain ⟨cause, rfl, safe⟩ := misfit
  exact ⟨rfl, safe⟩

theorem FailsFitting.reported {α : Type} {outcome : Outcome α} (fails : FailsFitting allowed outcome) :
    FailsReported allowed outcome := fails.imp fun _ => isReported_of_isMisfit

theorem Fits.reports {α : Type} {good : α → Prop} {outcome : Outcome α} (fits : Fits allowed good outcome) :
    Reports allowed good outcome := fits.imp fun _ => isReported_of_isMisfit

theorem harmless_nil : Harmless allowed [] := fun _ mem => nomatch mem

theorem harmless_append {first second : List Breakdown} :
    Harmless allowed (first ++ second) ↔ Harmless allowed first ∧ Harmless allowed second :=
  List.forall_mem_append

theorem harmless_riskUnless {held : Bool} {cause : Breakdown} :
    Harmless allowed (riskUnless held cause) ↔ (held = false → allowed cause) := by
  cases held <;> simp [Harmless, riskUnless]

theorem mem_riskUnless {held : Bool} {cause : Breakdown} (fails : held = false) : cause ∈ riskUnless held cause := by
  rw [riskUnless, fails]
  exact List.mem_singleton_self cause

theorem harmless_flatMap {α : Type} {items : List α} {risks : α → List Breakdown} :
    Harmless allowed (items.flatMap risks) ↔ ∀ item ∈ items, Harmless allowed (risks item) := by
  simp only [Harmless, List.mem_flatMap]
  exact ⟨fun held item mem cause risk => held cause ⟨item, mem, risk⟩,
    fun held cause ⟨item, mem, risk⟩ => held item mem cause risk⟩

theorem allowed_of_and {first second : Bool} {held : Prop} :
    ((first && second) = false → held) ↔ (first = false → held) ∧ (second = false → held) := by
  rw [Bool.and_eq_false_iff, or_imp]

/-- Whether a fault is about static arguments, types, constants or the extensions that define them. -/
def Fault.concernsTypes : Fault → Bool
  | .signature _ | .extensionNotFound _ | .operationNotFound _ _ | .breakdown _ => true
  | .mismatch (.notSum _ _) | .mismatch (.tagRange _ _ _ _) | .mismatch (.notTuple _ _)
  | .mismatch (.extensionType _ _) | .mismatch (.notValue _ _) | .mismatch (.elementCount _ _ _) => true
  | _ => false

/-- An error with such a fault and no place. It is a breakdown only over the position of a bound, where that may be
broken. -/
structure Error.IsByTypes (broken : Prop) (error : Error) : Prop where
  bare : error.place = none
  concerns : error.fault.concernsTypes = true
  breaks : error.fault.isBreakdown = true → error.fault = .breakdown .position ∧ broken

/-- An outcome that fails with such errors only. -/
abbrev FailsByTypes {α : Type} (broken : Prop) (outcome : Outcome α) : Prop :=
  outcome.FailsOnly (Error.IsByTypes broken)

theorem isByTypes_bare {broken : Prop} {fault : Fault} (concerns : fault.concernsTypes = true)
    (whole : fault.isBreakdown = false) : (Error.bare fault).IsByTypes broken := by
  refine ⟨rfl, concerns, fun breaks => ?_⟩
  change fault.isBreakdown = true at breaks
  rw [whole] at breaks
  cases breaks

theorem Error.IsByTypes.imp {broken other : Prop} {error : Error} (held : error.IsByTypes broken)
    (each : broken → other) : error.IsByTypes other :=
  ⟨held.bare, held.concerns, fun breaks => (held.breaks breaks).imp_right each⟩

theorem isByTypes_of_isReported {error : Error} (held : error.IsReported allowed) :
    error.IsByTypes (allowed .position) := by
  obtain ⟨fault, place⟩ := error
  obtain ⟨bare, reported⟩ := held
  refine ⟨bare, ?_, fun breaks => ?_⟩
  · cases fault with
    | signature | extensionNotFound | operationNotFound | breakdown => rfl
    | _ => exact reported.elim
  · cases fault with
    | breakdown cause =>
      obtain ⟨rfl, held⟩ := reported
      exact ⟨rfl, held⟩
    | _ => cases breaks

theorem FailsReported.byTypes {α : Type} {outcome : Outcome α} (fails : FailsReported allowed outcome) :
    FailsByTypes (allowed .position) outcome := fails.imp fun _ => isByTypes_of_isReported

/-- Where texts do not matter, what does not fit is no breakdown. -/
theorem FailsFitting.byTypes {α : Type} {broken : Prop} {outcome : Outcome α}
    (fails : FailsFitting (fun _ => True) outcome) : FailsByTypes broken outcome := by
  refine fails.imp fun error misfit => ?_
  obtain ⟨cause, rfl, -⟩ := misfit
  exact isByTypes_bare rfl rfl

theorem harmless_true (risks : List Breakdown) : Harmless (fun _ => True) risks := fun _ _ => trivial

mutual

/-- What cannot be written is a risk. -/
theorem Ty.value_mem_risks : ∀ ty : Ty, ty.isWritable = false → .value ∈ ty.risks
  | .custom _ _ args _ _ => by
    rw [Ty.isWritable, Ty.risks, List.mem_append]
    exact fun unwritable => .inr (Arg.value_mem_risksOfAll args unwritable)
  | .sum variants => by
    rw [Ty.isWritable, Ty.risks]
    exact Row.value_mem_risksOfAll variants
  | .tuple row => by
    rw [Ty.isWritable, Ty.risks]
    exact Row.value_mem_risks row
  | .function input output reqs => by
    rw [Ty.isWritable, Ty.risks, List.mem_append, List.mem_append, Bool.and_eq_false_iff]
    exact fun unwritable => .inl (unwritable.imp (Row.value_mem_risks input) (Row.value_mem_risks output))
  | .var index bound => by
    rw [Ty.isWritable, Ty.risks]
    exact mem_riskUnless

theorem Row.value_mem_risks : ∀ row : List Ty, Row.isWritable row = false → .value ∈ Row.risks row
  | [] => fun unwritable => nomatch unwritable
  | ty :: rest => by
    rw [Row.isWritable, Row.risks, List.mem_append, Bool.and_eq_false_iff]
    exact Or.imp ty.value_mem_risks (Row.value_mem_risks rest)

theorem Row.value_mem_risksOfAll : ∀ rows : List (List Ty), Row.areWritable rows = false →
    .value ∈ Row.risksOfAll rows
  | [] => fun unwritable => nomatch unwritable
  | row :: rest => by
    rw [Row.areWritable, Row.risksOfAll, List.mem_append, Bool.and_eq_false_iff]
    exact Or.imp (Row.value_mem_risks row) (Row.value_mem_risksOfAll rest)

theorem Arg.value_mem_risks : ∀ arg : Arg, arg.isWritable = false → .value ∈ arg.risks
  | .type ty => by
    rw [Arg.isWritable, Arg.risks]
    exact ty.value_mem_risks
  | .nat value => by
    rw [Arg.isWritable, Arg.risks]
    exact mem_riskUnless
  | .string _ => fun unwritable => nomatch unwritable
  | .extensions _ => fun unwritable => nomatch unwritable
  | .sequence elems => by
    rw [Arg.isWritable, Arg.risks]
    exact Arg.value_mem_risksOfAll elems
  | .var index param => by
    rw [Arg.isWritable, Arg.risks, List.mem_append]
    exact fun unwritable => .inl (mem_riskUnless unwritable)

theorem Arg.value_mem_risksOfAll : ∀ args : List Arg, Arg.areWritable args = false → .value ∈ Arg.risksOfAll args
  | [] => fun unwritable => nomatch unwritable
  | arg :: rest => by
    rw [Arg.areWritable, Arg.risksOfAll, List.mem_append, Bool.and_eq_false_iff]
    exact Or.imp arg.value_mem_risks (Arg.value_mem_risksOfAll rest)

end

/-! ### Static arguments -/

theorem Arg.risksOfAll_eq (args : List Arg) : Arg.risksOfAll args = args.flatMap Arg.risks := by
  induction args with
  | nil => rfl
  | cons arg rest ih => rw [Arg.risksOfAll, ih, List.flatMap_cons]

theorem Arg.harmless_risksOfAll {args : List Arg} :
    Harmless allowed (Arg.risksOfAll args) ↔ ∀ arg ∈ args, Harmless allowed arg.risks := by
  rw [Arg.risksOfAll_eq, harmless_flatMap]

theorem harmless_misfit {arg : Arg} {param : Param} (safe : Harmless allowed arg.risks)
    (fits : Harmless allowed param.risks) : Harmless allowed (SignatureFault.misfit arg param).risks := by
  rw [SignatureFault.risks, harmless_riskUnless, SignatureFault.isWritable, allowed_of_and]
  exact ⟨fun unwritable => safe _ (arg.value_mem_risks unwritable), harmless_riskUnless.1 fits⟩

theorem harmless_natRange {value : Int} {param : Param} (safe : Harmless allowed (Arg.nat value).risks)
    (fits : Harmless allowed param.risks) : Harmless allowed (SignatureFault.natRange value param).risks := by
  rw [SignatureFault.risks, harmless_riskUnless, SignatureFault.isWritable, allowed_of_and]
  exact ⟨harmless_riskUnless.1 safe, harmless_riskUnless.1 fits⟩

namespace Arg

theorem fails_asType {arg : Arg} (safe : Harmless allowed arg.risks) : FailsFitting allowed arg.asType := by
  have untyped : Harmless allowed (SignatureFault.notType arg).risks :=
    harmless_riskUnless.2 fun unwritable => safe _ (arg.value_mem_risks unwritable)
  cases arg with
  | type ty => exact failsOnly_ok ty
  | _ => exact failsOnly_fail (isMisfit_bare untyped)

theorem fits_asType {arg : Arg} (safe : Harmless allowed arg.risks) :
    Fits allowed (fun ty => Harmless allowed ty.risks) arg.asType := by
  refine ⟨fun ty answered => ?_, fails_asType safe⟩
  cases arg with
  | type own =>
    cases answered
    exact safe
  | _ => cases answered

theorem fits_asExtensions {arg : Arg} (safe : Harmless allowed arg.risks) :
    Fits allowed (fun set => Harmless allowed set.risks) arg.asExtensions := by
  rw [asExtensions.eq_def]
  split
  · exact meets_ok safe
  · rename_i index
    refine meets_ok (harmless_flatMap.2 fun other mem => ?_)
    rw [List.mem_singleton.1 mem]
    exact (harmless_append.1 safe).1
  · exact meets_fail (isMisfit_bare (harmless_riskUnless.2 fun unwritable => safe _ (arg.value_mem_risks unwritable)))

mutual

theorem fails_check : ∀ (arg : Arg) (param : Param), Harmless allowed arg.risks → Harmless allowed param.risks →
    FailsFitting allowed (arg.check param)
  | .var index declared, param => by
    intro safe fits
    rw [check]
    exact .ite (failsOnly_ok ()) (failsOnly_fail (isMisfit_bare (harmless_misfit safe fits)))
  | .type ty, param => by
    intro safe fits
    have misfit := harmless_misfit safe fits
    cases param with
    | type bound =>
      rw [check]
      exact .ite (failsOnly_ok ()) (failsOnly_fail (isMisfit_bare misfit))
    | _ => exact failsOnly_fail (isMisfit_bare misfit)
  | .nat value, param => by
    intro safe fits
    have misfit := harmless_misfit safe fits
    cases param with
    | nat upper =>
      rw [check]
      exact .ite (failsOnly_fail (isMisfit_bare (harmless_natRange safe fits))) (failsOnly_ok ())
    | _ => exact failsOnly_fail (isMisfit_bare misfit)
  | .string value, param => by
    intro safe fits
    have misfit := harmless_misfit safe fits
    cases param with
    | string => exact failsOnly_ok ()
    | _ => exact failsOnly_fail (isMisfit_bare misfit)
  | .extensions set, param => by
    intro safe fits
    have misfit := harmless_misfit safe fits
    cases param with
    | extensions => exact failsOnly_ok ()
    | _ => exact failsOnly_fail (isMisfit_bare misfit)
  | .sequence elems, param => by
    intro safe fits
    have misfit := harmless_misfit safe fits
    cases param with
    | list elem =>
      rw [check]
      exact fails_checkEach elems elem safe fits
    | _ => exact failsOnly_fail (isMisfit_bare misfit)

theorem fails_checkEach : ∀ (args : List Arg) (param : Param), Harmless allowed (risksOfAll args) →
    Harmless allowed param.risks → FailsFitting allowed (checkEach args param)
  | [], _ => fun _ _ => failsOnly_ok ()
  | arg :: rest, param => by
    intro safe fits
    rw [risksOfAll, harmless_append] at safe
    rw [checkEach]
    exact (fails_check arg param safe.1 fits).bind fun _ => fails_checkEach rest param safe.2 fits

end

theorem fails_checkZip : ∀ (args : List Arg) (params : List Param), Harmless allowed (risksOfAll args) →
    (∀ param ∈ params, Harmless allowed param.risks) → FailsFitting allowed (checkZip args params)
  | arg :: args, param :: params => by
    intro safe fits
    rw [risksOfAll, harmless_append] at safe
    rw [List.forall_mem_cons] at fits
    rw [checkZip]
    exact (arg.fails_check param safe.1 fits.1).bind fun _ => fails_checkZip args params safe.2 fits.2
  | [], _ => fun _ _ => failsOnly_ok ()
  | _ :: _, [] => fun _ _ => failsOnly_ok ()

theorem fits_checkList {args : List Arg} {params : List Param} (safe : Harmless allowed (risksOfAll args))
    (fits : ∀ param ∈ params, Harmless allowed param.risks) :
    Fits allowed (fun _ => args.length = params.length) (checkList args params) := by
  rw [checkList]
  refine .ite (fun same => ⟨fun _ _ => same, fails_checkZip args params safe fits⟩) fun _ => meets_fail ?_
  exact isMisfit_bare harmless_nil

theorem meets_checkList {broken : Prop} (args : List Arg) (params : List Param) :
    (checkList args params).Meets (fun _ => args.length = params.length) (Error.IsByTypes broken) := by
  have fits := @fits_checkList (fun _ => True) args params (harmless_true _) fun _ _ => harmless_true _
  exact ⟨fits.1, FailsFitting.byTypes fits.2⟩

end Arg

theorem fits_argumentFor {args : List Arg} {index : Int} {kind : Param}
    (safe : Harmless allowed (Arg.risksOfAll args)) (written : Harmless allowed (Text.risks index))
    (fits : Harmless allowed kind.risks) :
    Fits allowed (fun arg => Harmless allowed arg.risks) (argumentFor args index kind) := by
  have undeclared : Harmless allowed (SignatureFault.undeclared index args.length).risks := written
  rw [argumentFor]
  refine .ite (fun _ => meets_fail (isMisfit_bare undeclared)) fun _ => ?_
  split
  · exact meets_fail (isMisfit_bare undeclared)
  · rename_i arg found
    have isSafe := Arg.harmless_risksOfAll.1 safe arg (List.mem_of_getElem? found)
    exact (arg.fails_check kind isSafe fits).meets.bind fun _ _ => meets_ok isSafe

/-- What is not found at a position below the end lies before the first item. -/
theorem lt_of_itemAt?_eq_none {α : Type} {items : List α} {position : Int} (absent : itemAt? items position = none)
    (below : position < items.length) : position < -(items.length : Int) := by
  by_contra within
  rw [itemAt?] at absent
  generalize counted : (if position < 0 then position + (items.length : Int) else position) = index at absent
  have inside : 0 ≤ index ∧ index < items.length := by
    split at counted <;> omega
  rw [if_neg (Int.not_lt.2 inside.1), List.getElem?_eq_none_iff] at absent
  omega

theorem mem_of_itemAt? {α : Type} {items : List α} {position : Int} {item : α}
    (found : itemAt? items position = some item) : item ∈ items := by
  rw [itemAt?] at found
  generalize (if position < 0 then position + (items.length : Int) else position) = index at found
  split at found
  · cases found
  · exact List.mem_of_getElem? found

/-- A bound is derived from types; what is before the first argument is not there. -/
theorem failsOnly_derivedBound {fine : Error → Prop} {args : List Arg} {positions : List Int}
    (types : ∀ arg ∈ args, arg.asType.FailsOnly fine)
    (before : ∀ position ∈ positions, position < -(args.length : Int) → fine (.bare (.breakdown .position))) :
    (derivedBound args positions).FailsOnly fine := by
  induction positions with
  | nil => exact failsOnly_ok Bound.copyable
  | cons position rest ih =>
    rw [List.forall_mem_cons] at before
    rw [derivedBound]
    split
    · exact ih before.2
    · rename_i below
      split
      · rename_i absent
        exact failsOnly_fail (before.1 (lt_of_itemAt?_eq_none absent (Int.not_le.1 below)))
      · rename_i arg found
        exact (types arg (mem_of_itemAt? found)).bind fun ty => .ite (failsOnly_ok Bound.linear) (ih before.2)

theorem fails_derivedBound {args : List Arg} {positions : List Int} (safe : Harmless allowed (Arg.risksOfAll args))
    (within : Harmless allowed (positionRisks args.length positions)) :
    FailsReported allowed (derivedBound args positions) := by
  refine failsOnly_derivedBound (fun arg mem => ?_) fun position mem before => ⟨rfl, rfl, ?_⟩
  · exact (Arg.fails_asType (Arg.harmless_risksOfAll.1 safe arg mem)).reported
  · refine harmless_riskUnless.1 within (List.all_eq_false.2 ⟨position, mem, ?_⟩)
    simpa using before

theorem failsByTypes_checkVariable {broken : Prop} (scope : List Param) (index : Int) (claimed : Param) :
    FailsByTypes broken (checkVariable scope index claimed) := by
  rw [checkVariable]
  refine .ite (failsOnly_fail (isByTypes_bare rfl rfl)) ?_
  split
  · exact failsOnly_fail (isByTypes_bare rfl rfl)
  · exact .ite (failsOnly_ok ()) (failsOnly_fail (isByTypes_bare rfl rfl))

/-! ### Substitution -/

theorem Ty.reports_instance? {extension name : String} {args : List Arg} {bound : Bound}
    {boundFrom : Option (List Int)} (safe : Harmless allowed (Arg.risksOfAll args))
    (within : Harmless allowed (positionRisks args.length (boundFrom.getD []))) :
    Reports allowed (fun ty => Harmless allowed ty.risks) (Ty.instance? extension name args bound boundFrom) := by
  have whole : ∀ derived, Harmless allowed (Ty.custom extension name args derived boundFrom).risks := by
    intro derived
    rw [Ty.risks, harmless_append]
    exact ⟨within, safe⟩
  cases boundFrom with
  | none => exact meets_ok (whole bound)
  | some positions => exact (fails_derivedBound safe within).meets.bind fun derived _ => meets_ok (whole derived)

namespace ExtensionSet

theorem harmless_risks {set : ExtensionSet} :
    Harmless allowed set.risks ↔ ∀ index ∈ set.indices, Harmless allowed (Text.risks index) := harmless_flatMap

theorem reports_substVariables {args : List Arg} (safe : Harmless allowed (Arg.risksOfAll args)) {indices : List Int}
    (written : ∀ index ∈ indices, Harmless allowed (Text.risks index)) {set : ExtensionSet}
    (begins : Harmless allowed set.risks) :
    Reports allowed (fun new => Harmless allowed new.risks) (substVariables args indices set) := by
  induction indices generalizing set with
  | nil => exact meets_ok begins
  | cons index rest ih =>
    rw [List.forall_mem_cons] at written
    have plain : Harmless allowed Param.extensions.risks := harmless_nil
    rw [substVariables]
    refine (fits_argumentFor safe written.1 plain).reports.bind fun arg isSafe => ?_
    refine (Arg.fits_asExtensions isSafe).reports.bind fun part partSafe => ih written.2 ?_
    rw [harmless_risks] at begins partSafe ⊢
    intro other mem
    rcases SortedList.mem_union.1 mem with former | new
    · exact begins other former
    · exact partSafe other new

theorem reports_subst {args : List Arg} (safe : Harmless allowed (Arg.risksOfAll args)) {set : ExtensionSet}
    (fine : Harmless allowed set.risks) : Reports allowed (fun new => Harmless allowed new.risks) (set.subst args) :=
  reports_substVariables safe (harmless_risks.1 fine) harmless_nil

end ExtensionSet

section

variable {args : List Arg}

mutual

theorem Ty.reports_subst (safe : Harmless allowed (Arg.risksOfAll args)) :
    ∀ ty : Ty, Harmless allowed ty.risks → Reports allowed (fun new => Harmless allowed new.risks) (ty.subst args)
  | .custom _ _ [] _ _ => fun fine => meets_ok fine
  | .custom extension name (arg :: rest) bound boundFrom => by
    intro fine
    rw [Ty.risks, harmless_append] at fine
    rw [Ty.subst]
    · refine (Arg.reports_substAll safe (arg :: rest) fine.2).bind fun own held => Ty.reports_instance? held.1 ?_
      rw [held.2]
      exact fine.1
    · exact fun same => nomatch same
  | .sum variants => by
    intro fine
    rw [Ty.subst]
    exact (Row.reports_substAll safe variants fine).bind fun _ held => meets_ok held
  | .tuple row => by
    intro fine
    rw [Ty.subst]
    exact (Row.reports_subst safe row fine).bind fun _ held => meets_ok held
  | .function input output reqs => by
    intro fine
    rw [Ty.risks, harmless_append, harmless_append] at fine
    rw [Ty.subst]
    refine (Row.reports_subst safe input fine.1.1).bind fun newInput inputFine => ?_
    refine (Row.reports_subst safe output fine.1.2).bind fun newOutput outputFine => ?_
    refine (reqs.reports_subst safe fine.2).bind fun newReqs reqsFine => meets_ok ?_
    rw [Ty.risks, harmless_append, harmless_append]
    exact ⟨⟨inputFine, outputFine⟩, reqsFine⟩
  | .var index bound => by
    intro fine
    have plain : Harmless allowed (Param.type bound).risks := harmless_nil
    rw [Ty.subst]
    exact (fits_argumentFor safe fine plain).reports.bind fun arg isSafe => (Arg.fits_asType isSafe).reports

theorem Row.reports_subst (safe : Harmless allowed (Arg.risksOfAll args)) :
    ∀ row : List Ty, Harmless allowed (Row.risks row) →
      Reports allowed (fun new => Harmless allowed (Row.risks new)) (Row.subst args row)
  | [] => fun fine => meets_ok fine
  | ty :: rest => by
    intro fine
    rw [Row.risks, harmless_append] at fine
    rw [Row.subst]
    refine (Ty.reports_subst safe ty fine.1).bind fun newTy tyFine => ?_
    refine (Row.reports_subst safe rest fine.2).bind fun newRest restFine => meets_ok ?_
    rw [Row.risks, harmless_append]
    exact ⟨tyFine, restFine⟩

theorem Row.reports_substAll (safe : Harmless allowed (Arg.risksOfAll args)) :
    ∀ rows : List (List Ty), Harmless allowed (Row.risksOfAll rows) →
      Reports allowed (fun new => Harmless allowed (Row.risksOfAll new)) (Row.substAll args rows)
  | [] => fun fine => meets_ok fine
  | row :: rest => by
    intro fine
    rw [Row.risksOfAll, harmless_append] at fine
    rw [Row.substAll]
    refine (Row.reports_subst safe row fine.1).bind fun newRow rowFine => ?_
    refine (Row.reports_substAll safe rest fine.2).bind fun newRest restFine => meets_ok ?_
    rw [Row.risksOfAll, harmless_append]
    exact ⟨rowFine, restFine⟩

theorem Arg.reports_subst (safe : Harmless allowed (Arg.risksOfAll args)) : ∀ arg : Arg, Harmless allowed arg.risks →
    Reports allowed (fun new => Harmless allowed new.risks) (arg.subst args)
  | .type ty => by
    intro fine
    rw [Arg.subst]
    exact (Ty.reports_subst safe ty fine).bind fun _ held => meets_ok held
  | .nat _ => fun fine => meets_ok fine
  | .string _ => fun fine => meets_ok fine
  | .extensions set => by
    intro fine
    rw [Arg.subst]
    exact (set.reports_subst safe fine).bind fun _ held => meets_ok held
  | .sequence elems => by
    intro fine
    rw [Arg.subst]
    exact (Arg.reports_substAll safe elems fine).bind fun _ held => meets_ok held.1
  | .var index param => by
    intro fine
    rw [Arg.risks, harmless_append] at fine
    rw [Arg.subst]
    exact (fits_argumentFor safe fine.1 fine.2).reports

/-- There are as many arguments after substitution as before, which keeps positions within them. -/
theorem Arg.reports_substAll (safe : Harmless allowed (Arg.risksOfAll args)) :
    ∀ others : List Arg, Harmless allowed (Arg.risksOfAll others) →
      Reports allowed (fun new => Harmless allowed (Arg.risksOfAll new) ∧ new.length = others.length)
        (Arg.substAll args others)
  | [] => fun fine => meets_ok ⟨fine, rfl⟩
  | arg :: rest => by
    intro fine
    rw [Arg.risksOfAll, harmless_append] at fine
    rw [Arg.substAll]
    refine (Arg.reports_subst safe arg fine.1).bind fun newArg argFine => ?_
    refine (Arg.reports_substAll safe rest fine.2).bind fun newRest ⟨restFine, same⟩ => meets_ok ⟨?_, ?_⟩
    · rw [Arg.risksOfAll, harmless_append]
      exact ⟨argFine, restFine⟩
    · rw [List.length_cons, List.length_cons, same]

end

theorem Scheme.fails_instantiate {scheme : Scheme} (safe : Harmless allowed (Arg.risksOfAll args))
    (fine : Harmless allowed scheme.risks) :
    FailsReported allowed (scheme.instantiate args) := by
  rw [Scheme.instantiate]
  by_cases fixed : scheme.params.isEmpty = true
  · have none : ∀ param ∈ scheme.params, Harmless allowed param.risks := by
      rw [List.isEmpty_iff.1 fixed]
      exact fun param mem => nomatch mem
    rw [if_pos fixed]
    exact (Arg.fits_checkList safe none).reports.2.bind fun _ => failsOnly_ok scheme.body
  · rw [Scheme.risks, if_neg fixed, harmless_append, harmless_flatMap, Signature.toTy, Ty.risks, harmless_append,
      harmless_append] at fine
    obtain ⟨params, ⟨input, output⟩, reqs⟩ := fine
    rw [if_neg fixed]
    refine (Arg.fits_checkList safe params).reports.2.bind fun _ => ?_
    exact (Row.reports_subst safe _ input).2.bind fun _ => (Row.reports_subst safe _ output).2.bind fun _ =>
      (ExtensionSet.reports_subst safe reqs).2.bind fun _ => failsOnly_ok _

end

namespace ExtensionSet

theorem failsByTypes_validate {broken : Prop} (set : ExtensionSet) (scope : List Param) :
    FailsByTypes broken (set.validate scope) :=
  failsOnly_forM _ fun index => failsByTypes_checkVariable scope index .extensions

end ExtensionSet

/-! ### Constants -/

namespace Value

variable {broken : Prop}

mutual

theorem failsByTypes_check : ∀ (value : Value) (ty : Ty), FailsByTypes broken (value.check ty)
  | .sum tag values, ty => by
    cases ty with
    | sum variants =>
      rw [check]
      refine .ite (failsOnly_fail (isByTypes_bare rfl rfl)) ?_
      split
      · exact failsOnly_fail (isByTypes_bare rfl rfl)
      · rename_i row _
        exact .ite (failsByTypes_checkEach values row) (failsOnly_fail (isByTypes_bare rfl rfl))
    | _ => exact failsOnly_fail (isByTypes_bare rfl rfl)
  | .tuple values, ty => by
    cases ty with
    | tuple row =>
      rw [check]
      exact .ite (failsByTypes_checkEach values row) (failsOnly_fail (isByTypes_bare rfl rfl))
    | _ => exact failsOnly_fail (isByTypes_bare rfl rfl)
  | .extension typ payload, ty => by
    rw [check]
    exact .ite (failsOnly_ok ()) (failsOnly_fail (isByTypes_bare rfl rfl))
  | .raw data, ty => failsOnly_fail (isByTypes_bare rfl rfl)

theorem failsByTypes_checkEach : ∀ (values : List Value) (types : List Ty), FailsByTypes broken (checkEach values types)
  | value :: values, ty :: types => by
    rw [checkEach]
    exact (failsByTypes_check value ty).bind fun _ => failsByTypes_checkEach values types
  | [], _ => failsOnly_ok ()
  | _ :: _, [] => failsOnly_ok ()

end

end Value

/-! ### Definitions -/

namespace Registry

theorem fails_get (registry : Registry) (name : String) : FailsReported allowed (registry.get name) := by
  rw [get]
  split
  · exact failsOnly_ok _
  · exact failsOnly_fail ⟨rfl, trivial⟩

theorem fails_getOp (registry : Registry) (extension name : String) :
    FailsReported allowed (registry.getOp extension name) := by
  rw [getOp]
  refine (registry.fails_get extension).bind fun owner => ?_
  split
  · exact failsOnly_ok _
  · exact failsOnly_fail ⟨rfl, trivial⟩

theorem fails_getType (registry : Registry) (extension name : String) :
    FailsReported allowed (registry.getType extension name) := by
  rw [getType]
  refine (registry.fails_get extension).bind fun owner => ?_
  split
  · exact failsOnly_ok _
  · exact failsOnly_fail ⟨rfl, harmless_nil⟩

end Registry

theorem TypeDef.fails_boundFor {definition : TypeDef} {args : List Arg} (safe : Harmless allowed (Arg.risksOfAll args))
    (within : Harmless allowed (positionRisks args.length (definition.boundFrom?.getD []))) :
    FailsReported allowed (definition.boundFor args) := by
  rw [TypeDef.boundFor]
  rw [TypeDef.boundFrom?] at within
  split at within
  · exact failsOnly_ok _
  · exact fails_derivedBound safe within

/-- Bounds are taken from positions within the parameters, which may be counted from the end. -/
def Registry.BoundsWithin (registry : Registry) : Prop :=
  ∀ extension name definition positions, registry.getType extension name = .ok definition →
    definition.bound = .fromArgs positions → ∀ position ∈ positions,
      -(definition.params.length : Int) ≤ position ∧ position < definition.params.length

/-- Such positions are not before the first of as many arguments as there are parameters. -/
theorem Registry.BoundsWithin.not_before {registry : Registry} (bounds : registry.BoundsWithin)
    {extension name : String} {definition : TypeDef} (found : registry.getType extension name = .ok definition)
    {args : List Arg} (same : args.length = definition.params.length) :
    ∀ position ∈ definition.boundFrom?.getD [], ¬ position < -(args.length : Int) := by
  intro position mem
  rw [TypeDef.boundFrom?] at mem
  split at mem
  · cases mem
  · rename_i positions isRule
    rw [same]
    exact Int.not_lt.2 (bounds extension name definition positions found isRule position mem).1

theorem Registry.failsByTypes_getType {broken : Prop} (registry : Registry) (extension name : String) :
    FailsByTypes broken (registry.getType extension name) :=
  FailsReported.byTypes (@Registry.fails_getType (fun _ => broken) registry extension name)

theorem TypeDef.failsByTypes_boundFor {broken : Prop} {definition : TypeDef} {args : List Arg}
    (before : ∀ position ∈ definition.boundFrom?.getD [], position < -(args.length : Int) → broken) :
    FailsByTypes broken (definition.boundFor args) := by
  rw [TypeDef.boundFor]
  rw [TypeDef.boundFrom?] at before
  split at before
  · exact failsOnly_ok _
  · refine failsOnly_derivedBound (fun arg _ => FailsFitting.byTypes (Arg.fails_asType (harmless_true _)))
      fun position mem below => ⟨rfl, rfl, fun _ => ⟨rfl, before position mem below⟩⟩

mutual

theorem Ty.failsByTypes_validate (registry : Registry) (scope : List Param) :
    ∀ ty : Ty, FailsByTypes (¬ registry.BoundsWithin) (ty.validate registry scope)
  | .custom extension name args bound boundFrom => by
    rw [Ty.validate]
    refine (registry.failsByTypes_getType extension name).meets.failsOnly_bind fun definition found => ?_
    refine (Arg.failsByTypes_validateAll registry scope args).bind fun _ => ?_
    refine (Arg.meets_checkList args definition.params).failsOnly_bind fun _ same => ?_
    refine (TypeDef.failsByTypes_boundFor fun position mem before bounds => ?_).bind fun _ =>
      .ite (failsOnly_ok ()) (failsOnly_fail (isByTypes_bare rfl rfl))
    exact bounds.not_before found same position mem before
  | .sum variants => by
    rw [Ty.validate]
    exact Row.failsByTypes_validateAll registry scope variants
  | .tuple row => by
    rw [Ty.validate]
    exact Row.failsByTypes_validate registry scope row
  | .function input output reqs => by
    rw [Ty.validate]
    exact (Row.failsByTypes_validate registry scope input).bind fun _ =>
      (Row.failsByTypes_validate registry scope output).bind fun _ => reqs.failsByTypes_validate scope
  | .var index bound => by
    rw [Ty.validate]
    exact failsByTypes_checkVariable scope index (.type bound)

theorem Row.failsByTypes_validate (registry : Registry) (scope : List Param) :
    ∀ row : List Ty, FailsByTypes (¬ registry.BoundsWithin) (Row.validate registry scope row)
  | [] => failsOnly_ok ()
  | ty :: rest => by
    rw [Row.validate]
    exact (Ty.failsByTypes_validate registry scope ty).bind fun _ => Row.failsByTypes_validate registry scope rest

theorem Row.failsByTypes_validateAll (registry : Registry) (scope : List Param) :
    ∀ rows : List (List Ty), FailsByTypes (¬ registry.BoundsWithin) (Row.validateAll registry scope rows)
  | [] => failsOnly_ok ()
  | row :: rest => by
    rw [Row.validateAll]
    exact (Row.failsByTypes_validate registry scope row).bind fun _ => Row.failsByTypes_validateAll registry scope rest

theorem Arg.failsByTypes_validate (registry : Registry) (scope : List Param) :
    ∀ arg : Arg, FailsByTypes (¬ registry.BoundsWithin) (arg.validate registry scope)
  | .type ty => by
    rw [Arg.validate]
    exact Ty.failsByTypes_validate registry scope ty
  | .nat _ => failsOnly_ok ()
  | .string _ => failsOnly_ok ()
  | .extensions set => by
    rw [Arg.validate]
    exact set.failsByTypes_validate scope
  | .sequence elems => by
    rw [Arg.validate]
    exact Arg.failsByTypes_validateAll registry scope elems
  | .var index param => by
    rw [Arg.validate]
    exact failsByTypes_checkVariable scope index param

theorem Arg.failsByTypes_validateAll (registry : Registry) (scope : List Param) :
    ∀ args : List Arg, FailsByTypes (¬ registry.BoundsWithin) (Arg.validateAll registry scope args)
  | [] => failsOnly_ok ()
  | arg :: rest => by
    rw [Arg.validateAll]
    exact (Arg.failsByTypes_validate registry scope arg).bind fun _ => Arg.failsByTypes_validateAll registry scope rest

end

/-! ### Computed signatures -/

/-- Some rule of a registry that computes signatures fails with the fault. -/
def Registry.Raises (registry : Registry) (fault : Fault) : Prop :=
  ∃ extension name definition rule args error, registry.getOp extension name = .ok definition ∧
    definition.rule = .computed rule ∧ rule.compute args = .error error ∧ error.fault = fault

/-- Some rule of a registry that computes signatures fails with the error. -/
def Registry.Throws (registry : Registry) (error : Error) : Prop :=
  ∃ extension name definition rule args, registry.getOp extension name = .ok definition ∧
    definition.rule = .computed rule ∧ rule.compute args = .error error

theorem Registry.Throws.raises {registry : Registry} {error : Error} (throws : registry.Throws error) :
    registry.Raises error.fault := by
  obtain ⟨extension, name, definition, rule, args, found, isRule, failed⟩ := throws
  exact ⟨extension, name, definition, rule, args, error, found, isRule, failed, rfl⟩

/-- A signature that a definition has, or that its rule computes from some arguments. -/
def OpDef.Gives (definition : OpDef) (scheme : Scheme) : Prop :=
  definition.rule = .fixed scheme ∨
    ∃ rule args, definition.rule = .computed rule ∧ rule.compute args = .ok scheme

theorem OpDef.reports_computeSignature {registry : Registry} {extension name : String} {definition : OpDef}
    (found : registry.getOp extension name = .ok definition) {args : List Arg}
    (safe : Harmless allowed (Arg.risksOfAll args))
    (params : ∀ param ∈ definition.params, Harmless allowed param.risks)
    (gives : ∀ scheme, definition.Gives scheme → Harmless allowed scheme.risks) :
    (definition.computeSignature args).FailsOnly fun error => error.IsReported allowed ∨ registry.Throws error := by
  have part : ∀ some : List Arg, (∀ arg ∈ some, arg ∈ args) → Harmless allowed (Arg.risksOfAll some) :=
    fun some isPart => Arg.harmless_risksOfAll.2 fun arg mem => Arg.harmless_risksOfAll.1 safe arg (isPart arg mem)
  rw [computeSignature, baseSignature]
  refine .bind ?_ fun _ => failsOnly_ok _
  split
  · exact failsOnly_fail (.inl ⟨rfl, harmless_nil⟩)
  · rename_i scheme isRule
    exact (Scheme.fails_instantiate safe (gives scheme (.inl isRule))).imp fun _ => .inl
  · rename_i rule isRule
    refine .ite (failsOnly_fail (.inl ⟨rfl, harmless_nil⟩)) ?_
    have front := part (args.take rule.staticParams.length) fun arg mem => List.mem_of_mem_take mem
    have back := part (args.drop rule.staticParams.length) fun arg mem => List.mem_of_mem_drop mem
    rw [OpDef.params, isRule] at params
    refine ((Arg.fits_checkList front params).reports.2.imp fun _ => .inl).bind fun _ => ?_
    have computed : (rule.compute (args.take rule.staticParams.length)).FailsOnly
        fun error => error.IsReported allowed ∨ registry.Throws error :=
      fun error failed => .inr ⟨extension, name, definition, rule, _, found, isRule, failed⟩
    refine computed.meets.failsOnly_bind fun scheme given => ?_
    exact (Scheme.fails_instantiate back (gives scheme (.inr ⟨rule, _, isRule, given⟩))).imp fun _ => .inl

/-! ### Sound registries -/

/-- The breakdowns that the definitions of a registry can cause, or the faults that its rules raise. -/
inductive Registry.Risks (registry : Registry) (cause : Breakdown) : Prop where
  | typeParam {extension name : String} {definition : TypeDef} {param : Param}
      (found : registry.getType extension name = .ok definition) (isParam : param ∈ definition.params)
      (risk : cause ∈ param.risks)
  | opParam {extension name : String} {definition : OpDef} {param : Param}
      (found : registry.getOp extension name = .ok definition) (isParam : param ∈ definition.params)
      (risk : cause ∈ param.risks)
  | scheme {extension name : String} {definition : OpDef} {scheme : Scheme}
      (found : registry.getOp extension name = .ok definition) (gives : definition.Gives scheme)
      (risk : cause ∈ scheme.risks)
  | raised {fault : SignatureFault} (raises : registry.Raises (.signature fault)) (risk : cause ∈ fault.risks)

/-- Rules that compute signatures fail with faults of signatures only. -/
def Registry.RaisesSignatures (registry : Registry) : Prop :=
  ∀ fault, registry.Raises fault → ∃ cause, fault = .signature cause

/-- Types have bounds within their parameters, rules raise faults of signatures, and what the definitions risk is
allowed. -/
structure Registry.Sound (allowed : Breakdown → Prop) (registry : Registry) : Prop where
  bounds : registry.BoundsWithin
  raises : registry.RaisesSignatures
  tame : ∀ cause, registry.Risks cause → allowed cause

namespace Registry.Sound

variable {registry : Registry} {extension name : String} {args : List Arg}

/-- Instances of a type take their bounds from their own arguments, as there are as many of these as parameters. -/
theorem reports_instantiateType (sound : registry.Sound allowed) (safe : Harmless allowed (Arg.risksOfAll args)) :
    Reports allowed (fun ty => Harmless allowed ty.risks) (registry.instantiateType extension name args) := by
  rw [instantiateType]
  refine (registry.fails_getType extension name).meets.bind fun definition found => ?_
  have params : ∀ param ∈ definition.params, Harmless allowed param.risks :=
    fun param mem cause risk => sound.tame cause (.typeParam found mem risk)
  rw [TypeDef.instantiate]
  refine (Arg.fits_checkList safe params).reports.bind fun _ same => ?_
  have within : Harmless allowed (positionRisks args.length (definition.boundFrom?.getD [])) := by
    refine harmless_riskUnless.2 fun outside => absurd outside (Bool.not_eq_false _ ▸ List.all_eq_true.2 ?_)
    exact fun position mem => decide_eq_true (Int.not_lt.1 (sound.bounds.not_before found same position mem))
  exact (TypeDef.fails_boundFor safe within).meets.bind fun _ _ => Ty.reports_instance? safe within

theorem fails_instantiateOp (sound : registry.Sound allowed) (safe : Harmless allowed (Arg.risksOfAll args)) :
    (registry.instantiateOp extension name args).FailsOnly fun error => error.fault.IsReported allowed := by
  rw [instantiateOp]
  refine Outcome.Meets.failsOnly_bind
    (.imp (registry.fails_getOp extension name).meets fun _ => Error.IsReported.reported) fun definition found => ?_
  rw [OpDef.instantiate]
  refine .bind (.imp (OpDef.reports_computeSignature found safe
    (fun param mem cause risk => sound.tame cause (.opParam found mem risk))
    fun scheme given cause risk => sound.tame cause (.scheme found given risk)) ?_) fun _ => failsOnly_ok _
  rintro error (held | throws)
  · exact held.reported
  · obtain ⟨cause, isSignature⟩ := sound.raises error.fault throws.raises
    have raised := throws.raises
    rw [isSignature] at raised ⊢
    exact fun breakdown risk => sound.tame breakdown (.raised raised risk)

end Registry.Sound

end

end NestedFlow
