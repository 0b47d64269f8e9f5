import NestedFlow.Program.Validation
import NestedFlow.Proofs.Faults

/-! When a report is empty, what it may list at most, and when two reports read alike: each is settled part by part. -/

set_option autoImplicit false

namespace NestedFlow.Report

/-! ### Empty reports -/

/-- A report that has nothing to say. -/
abbrev Empty (report : Report) : Prop := report = .ok []

instance (report : Report) : Decidable report.Empty :=
  match report with
  | .ok [] => .isTrue rfl
  | .ok (_ :: _) => .isFalse fun empty => nomatch empty
  | .error _ => .isFalse fun empty => nomatch empty

theorem not_empty_single (node : Node) (fault : Fault) : ¬ (single node fault).Empty := by
  intro empty
  cases empty

theorem empty_ite_iff {condition : Prop} [Decidable condition] {node : Node} {fault : Fault} :
    (if condition then clean else single node fault).Empty ↔ condition := by
  split
  · rename_i held
    exact iff_of_true rfl held
  · rename_i failed
    exact iff_of_false (not_empty_single node fault) failed

/-- A report under a condition. -/
def when (condition : Prop) [Decidable condition] (report : Report) : Report := if condition then report else clean

theorem empty_when_iff {condition : Prop} [Decidable condition] {report : Report} :
    (when condition report).Empty ↔ (condition → report.Empty) := by
  rw [when]
  split
  · rename_i held
    exact ⟨fun empty _ => empty, fun each => each held⟩
  · rename_i failed
    exact iff_of_true rfl fun held => absurd held failed

theorem empty_also_iff {first second : Report} : (first.also second).Empty ↔ first.Empty ∧ second.Empty := by
  cases first with
  | error error =>
    refine iff_of_false (fun empty => ?_) fun both => ?_
    · cases empty
    · cases both.1
  | ok errors =>
    cases second with
    | error error =>
      refine iff_of_false (fun empty => ?_) fun both => ?_
      · cases empty
      · cases both.2
    | ok others =>
      change (Except.ok (errors ++ others) : Report) = .ok [] ↔
        (Except.ok errors : Report) = .ok [] ∧ (Except.ok others : Report) = .ok []
      simp only [Except.ok.injEq, List.append_eq_nil_iff]

theorem forEach_cons {α : Type} {item : α} {rest : List α} {check : α → Report} :
    forEach (item :: rest) check = (check item).also (forEach rest check) := by
  rw [forEach, also, forEach, List.mapM_cons]
  cases check item with
  | error error => rfl
  | ok errors => cases rest.mapM check <;> rfl

theorem also_nil (report : Report) : report.also (.ok []) = report := by
  cases report with
  | error error => rfl
  | ok errors => exact congrArg Except.ok (List.append_nil errors)

theorem empty_forEach_iff {α : Type} {items : List α} {check : α → Report} :
    (forEach items check).Empty ↔ ∀ item ∈ items, (check item).Empty := by
  induction items with
  | nil =>
    refine iff_of_true rfl ?_
    simp
  | cons item rest ih =>
    rw [forEach_cons, empty_also_iff, ih, List.forall_mem_cons]

theorem empty_ofCheck_iff {node : Node} {check : Outcome Unit} : (ofCheck node check).Empty ↔ check = .ok () := by
  cases check with
  | ok value => exact iff_of_true rfl rfl
  | error error =>
    rw [ofCheck]
    split <;> simp

/-! ### Reports of some violations only -/

/-- Every violation that is listed is an allowed one. -/
def ListsOnly (allowed : Error → Prop) (report : Report) : Prop :=
  ∀ errors, report = .ok errors → ∀ error ∈ errors, allowed error

section

variable {allowed : Error → Prop}

theorem listsOnly_clean : clean.ListsOnly allowed := by
  intro errors found error mem
  cases found
  cases mem

theorem Empty.listsOnly {report : Report} (empty : report.Empty) : report.ListsOnly allowed :=
  empty.symm ▸ listsOnly_clean

theorem listsOnly_single {node : Node} {fault : Fault} (held : allowed (.onNode fault node)) :
    (single node fault).ListsOnly allowed := by
  intro errors found error mem
  cases found
  rw [List.mem_singleton.1 mem]
  exact held

theorem listsOnly_error {error : Error} : ListsOnly allowed (.error error) := fun _ found => nomatch found

theorem ListsOnly.imp {others : Error → Prop} {report : Report} (lists : report.ListsOnly allowed)
    (each : ∀ error, allowed error → others error) : report.ListsOnly others :=
  fun errors found error mem => each _ (lists errors found error mem)

theorem ListsOnly.ite {condition : Prop} [Decidable condition] {first second : Report}
    (ifTrue : first.ListsOnly allowed) (ifFalse : second.ListsOnly allowed) :
    (if condition then first else second).ListsOnly allowed := by
  split <;> assumption

/-- What follows a question has to be right for every answer. -/
theorem listsOnly_bind {α : Type} {question : Outcome α} {next : α → Report}
    (each : ∀ answer, question = .ok answer → (next answer).ListsOnly allowed) :
    ListsOnly allowed (question >>= next) := by
  cases question with
  | error error => exact listsOnly_error
  | ok answer => exact each answer rfl

/-- One part of a report, before the others. -/
theorem ListsOnly.bind {first : Report} {next : List Error → Report} (begins : first.ListsOnly allowed)
    (further : ∀ errors, ListsOnly allowed (.ok errors) → (next errors).ListsOnly allowed) :
    ListsOnly allowed (first >>= next) :=
  listsOnly_bind fun errors found => further errors (found ▸ begins)

theorem ListsOnly.append {errors others : List Error} (first : ListsOnly allowed (.ok errors))
    (second : ListsOnly allowed (.ok others)) : ListsOnly allowed (.ok (errors ++ others)) := by
  intro whole found error mem
  cases found
  rcases List.mem_append.1 mem with inFirst | inSecond
  · exact first errors rfl error inFirst
  · exact second others rfl error inSecond

theorem ListsOnly.when {condition : Prop} [Decidable condition] {report : Report} (lists : report.ListsOnly allowed) :
    (Report.when condition report).ListsOnly allowed := lists.ite listsOnly_clean

theorem ListsOnly.also {first second : Report} (begins : first.ListsOnly allowed) (ends : second.ListsOnly allowed) :
    (first.also second).ListsOnly allowed :=
  begins.bind fun _ held => ends.bind fun _ further => held.append further

theorem listsOnly_forEach {α : Type} {items : List α} {check : α → Report}
    (each : ∀ item ∈ items, (check item).ListsOnly allowed) : (forEach items check).ListsOnly allowed := by
  induction items with
  | nil => exact listsOnly_clean
  | cons item rest ih =>
    rw [forEach_cons]
    exact (each item List.mem_cons_self).also (ih fun other mem => each other (List.mem_cons_of_mem item mem))

theorem listsOnly_ofCheck {node : Node} {check : Outcome Unit}
    (fails : check.FailsOnly fun error => allowed (error.attach node)) : (ofCheck node check).ListsOnly allowed := by
  cases check with
  | ok value => exact listsOnly_clean
  | error error =>
    rw [ofCheck]
    split
    · exact listsOnly_error
    · intro errors found listed mem
      cases found
      rw [List.mem_singleton.1 mem]
      exact fails error rfl

end

/-! ### Reports that come to an end -/

/-- Every violation that is listed is an allowed one, and the report breaks off only with an error that escapes. -/
abbrev Concludes (allowed escapes : Error → Prop) (report : Report) : Prop :=
  Outcome.Meets (fun errors => ∀ error ∈ errors, allowed error) escapes report

section

variable {allowed escapes : Error → Prop}

theorem concludes_clean : clean.Concludes allowed escapes := Outcome.meets_ok fun _ mem => nomatch mem

theorem Empty.concludes {report : Report} (empty : report.Empty) : report.Concludes allowed escapes :=
  empty.symm ▸ concludes_clean

theorem concludes_single {node : Node} {fault : Fault} (held : allowed (.onNode fault node)) :
    (single node fault).Concludes allowed escapes := by
  refine Outcome.meets_ok fun error mem => ?_
  rw [List.mem_singleton.1 mem]
  exact held

theorem concludes_ite {condition : Prop} [Decidable condition] {node : Node} {fault : Fault}
    (held : allowed (.onNode fault node)) :
    (if condition then clean else single node fault).Concludes allowed escapes :=
  .ite (fun _ => concludes_clean) fun _ => concludes_single held

theorem Concludes.imp {others : Error → Prop} {report : Report} (concludes : report.Concludes allowed escapes)
    (each : ∀ error, allowed error → others error) : report.Concludes others escapes :=
  ⟨fun errors found error mem => each error (concludes.1 errors found error mem), concludes.2⟩

theorem Concludes.also {first second : Report} (begins : first.Concludes allowed escapes)
    (ends : second.Concludes allowed escapes) : (first.also second).Concludes allowed escapes :=
  begins.bind fun _ held => ends.bind fun _ further => Outcome.meets_ok (List.forall_mem_append.2 ⟨held, further⟩)

theorem Concludes.when {condition : Prop} [Decidable condition] {report : Report}
    (concludes : condition → report.Concludes allowed escapes) :
    (Report.when condition report).Concludes allowed escapes := .ite concludes fun _ => concludes_clean

theorem concludes_forEach {α : Type} {items : List α} {check : α → Report}
    (each : ∀ item ∈ items, (check item).Concludes allowed escapes) :
    (forEach items check).Concludes allowed escapes := by
  induction items with
  | nil => exact concludes_clean
  | cons item rest ih =>
    rw [forEach_cons]
    exact (each item List.mem_cons_self).also (ih fun other mem => each other (List.mem_cons_of_mem item mem))

theorem concludes_ofCheck {node : Node} {check : Outcome Unit}
    (breaks : check.FailsOnly fun error => error.fault.isBreakdown = true → escapes error)
    (reports : check.FailsOnly fun error => error.fault.isBreakdown = false → allowed (error.attach node)) :
    (ofCheck node check).Concludes allowed escapes := by
  cases check with
  | ok value => exact concludes_clean
  | error error =>
    rw [ofCheck]
    split
    · rename_i broken
      refine ⟨fun _ listed => (nomatch listed), fun other failed => ?_⟩
      cases failed
      exact breaks error rfl broken
    · rename_i whole
      refine Outcome.meets_ok fun other mem => ?_
      rw [List.mem_singleton.1 mem]
      exact reports error rfl (Bool.eq_false_iff.2 whole)

end

/-! ### Reports that read alike -/

/-- What a report says, with its errors as they are reported. -/
def reads (report : Report) : Except Diagnostic (List Diagnostic) :=
  match report with
  | .ok errors => .ok (errors.map Error.diagnostic)
  | .error error => .error error.diagnostic

/-- Both reports list the same diagnostics, or break down with the same one. -/
def Alike (first second : Report) : Prop := first.reads = second.reads

theorem alike_refl (report : Report) : report.Alike report := rfl

theorem reads_also (first second : Report) :
    (first.also second).reads = (do
      let errors ← first.reads
      let others ← second.reads
      pure (errors ++ others)) := by
  cases first with
  | error error => rfl
  | ok errors =>
    cases second with
    | error error => rfl
    | ok others => exact congrArg Except.ok List.map_append

theorem Alike.also {first second others further : Report} (begins : first.Alike others) (ends : second.Alike further) :
    (first.also second).Alike (others.also further) := by
  rw [Alike, reads_also, reads_also, begins, ends]

theorem alike_forEach {α : Type} {items : List α} {check other : α → Report}
    (each : ∀ item ∈ items, (check item).Alike (other item)) : (forEach items check).Alike (forEach items other) := by
  induction items with
  | nil => exact alike_refl _
  | cons item rest ih =>
    rw [forEach_cons, forEach_cons]
    exact (each item List.mem_cons_self).also (ih fun further mem => each further (List.mem_cons_of_mem item mem))

theorem Alike.when {condition : Prop} [Decidable condition] {first second : Report} (same : first.Alike second) :
    (Report.when condition first).Alike (Report.when condition second) := by
  rw [Report.when, Report.when]
  split
  · exact same
  · exact alike_refl _

/-- A violation is reported by its kind and its message. -/
theorem alike_single {node : Node} {fault other : Fault} (kind : fault.kind = other.kind)
    (message : fault.message = other.message) : (single node fault).Alike (single node other) := by
  simp [Alike, reads, single, Error.diagnostic, Error.onNode, kind, message]

/-- What follows a question has to read alike for every answer. -/
theorem alike_bind {α : Type} {question : Outcome α} {next other : α → Report}
    (each : ∀ answer, question = .ok answer → (next answer).Alike (other answer)) :
    Alike (question >>= next) (question >>= other) := by
  cases question with
  | error error => exact alike_refl _
  | ok answer => exact each answer rfl

/-- One part of a report, before others that only look at what it says. -/
theorem Alike.bind {first second : Report} {next other : List Error → Report} (begins : first.Alike second)
    (further : ∀ errors others, Alike (.ok errors) (.ok others) → (next errors).Alike (other others)) :
    Alike (first >>= next) (second >>= other) := by
  cases first with
  | error error =>
    cases second with
    | error other => exact begins
    | ok others => cases begins
  | ok errors =>
    cases second with
    | error other => cases begins
    | ok others => exact further errors others begins

end NestedFlow.Report

namespace NestedFlow

open Outcome

/-! ### Checks of operations and types -/

/-- The breakdowns that an operation can cause when its signature is computed again. -/
def Op.risks : Op → List Breakdown
  | .call function typeArgs _ | .loadFunction function typeArgs _ => function.risks ++ Arg.risksOfAll typeArgs
  | .extension _ _ args _ => Arg.risksOfAll args
  | _ => []

/-- The check of an operation fails for its types, or because a rule does. A position of a bound is at fault only if
the operation or a signature of the registry holds it. -/
theorem Program.failsOnly_checkOp (registry : Registry) (op : Op) :
    (checkOp registry op).FailsOnly fun error =>
      error.IsByTypes (.position ∈ op.risks ∨ registry.Risks .position) ∨ registry.Throws error := by
  let allowed (cause : Breakdown) : Prop := cause = .position → .position ∈ op.risks ∨ registry.Risks .position
  have byTypes : ∀ error : Error, error.IsReported allowed →
      error.IsByTypes (.position ∈ op.risks ∨ registry.Risks .position) :=
    fun error held => (isByTypes_of_isReported held).imp fun risk => risk rfl
  have held : Harmless allowed op.risks := fun cause risk same => .inl (same ▸ risk)
  have instantiate : ∀ (function : Scheme) (typeArgs : List Arg) (cached : Signature) (stale : Signature → Fault),
      Harmless allowed (function.risks ++ Arg.risksOfAll typeArgs) →
      (∀ computed, (stale computed).concernsTypes = true) →
      (∀ computed, (stale computed).isBreakdown = false) →
      (do
        let computed ← function.instantiate typeArgs
        if computed = cached then pure () else fail (stale computed) : Outcome Unit).FailsOnly fun error =>
          error.IsByTypes (.position ∈ op.risks ∨ registry.Risks .position) ∨ registry.Throws error := by
    intro function typeArgs cached stale safe concerns whole
    rw [harmless_append] at safe
    refine (((Scheme.fails_instantiate safe.2 safe.1).imp byTypes).imp fun _ => .inl).bind fun computed => ?_
    exact .ite (failsOnly_ok ()) (failsOnly_fail (.inl (isByTypes_bare (concerns computed) (whole computed))))
  cases op with
  | extension extension name args cached =>
    refine (FailsOnly.imp (registry.fails_getOp extension name) fun error found => .inl (byTypes error found)
      ).meets.failsOnly_bind fun definition found => ?_
    refine FailsOnly.bind (.imp (OpDef.reports_computeSignature found held
      (fun param mem cause risk same => .inr (.opParam found mem (same ▸ risk)))
      fun scheme given cause risk same => .inr (.scheme found given (same ▸ risk))) fun error =>
        Or.imp_left (byTypes error)) fun computed => ?_
    exact .ite (failsOnly_ok ()) (failsOnly_fail (.inl (isByTypes_bare rfl rfl)))
  | call function typeArgs cached => exact instantiate function typeArgs cached _ held (fun _ => rfl) fun _ => rfl
  | loadFunction function typeArgs cached =>
    exact instantiate function typeArgs cached _ held (fun _ => rfl) fun _ => rfl
  | const value typ => exact (value.failsByTypes_check typ).imp fun _ => .inl
  | _ => exact failsOnly_ok ()

theorem Program.failsByTypes_checkPortType (registry : Registry) (scope : List Param) (type : PortType) :
    FailsByTypes (¬ registry.BoundsWithin) (checkPortType registry scope type) := by
  cases type with
  | value ty => exact ty.failsByTypes_validate registry scope
  | scheme scheme => exact Ty.failsByTypes_validate registry scheme.params scheme.body.toTy

end NestedFlow

namespace NestedFlow.Program

open Report

variable {program : Program} {node : Node} {op : Op}

/-! ### The parts of a report -/

theorem childrenReport_of_cons {first : Node} {rest : List Node}
    (children : program.children node = .ok (first :: rest)) (inner : op.childRules.allowed ≠ .none) :
    program.childrenReport node op = (program.firstChildReport node op first).also
      ((program.secondChildReport node op rest.head?).also
        ((when (op.childRules.first = .input) (program.boundaryReport op (first :: rest))).also
          ((when (op.childRules.acyclic = true) (program.acyclicReport node op)).also
            (program.kindReport node op (first :: rest))))) := by
  rw [childrenReport, children]
  simp only [Outcome.ok_bind, inner, if_false, Report.also, when, bind_assoc, pure_bind, List.append_assoc]
  split <;> split <;> rfl

theorem controlReport_of_exits {inputs outputs : Row} {children : List Node} {exits : List (Node × Row)}
    (found : program.exits children = .ok exits) :
    program.controlReport node inputs outputs children =
      (Report.forEach (children.take 1) (program.entryReport inputs)).also
        ((when (exits.isEmpty = true) (Report.single node (.shape .noExit))).also
          ((Report.forEach exits (exitReport outputs)).also (Report.forEach children program.blockReport))) := by
  rw [controlReport, found]
  simp only [Outcome.ok_bind, Report.also, when, bind_assoc, pure_bind, List.append_assoc]
  split <;> rfl

theorem edgeReport_of_kinds {edge : Edge} {start stop : PortKind} {inScope : Bool}
    (source : program.portKind? edge.source = .ok (some start))
    (target : program.portKind? edge.target = .ok (some stop))
    (nearby : program.isLocal edge start.type = .ok inScope) :
    program.edgeReport edge =
      if start.kind ≠ stop.kind ∨ stop.kind ≠ edge.kind then
        Report.single edge.source.node (.shape (.edgeKinds edge start.kind stop.kind))
      else
        (when (edge.kind.isTyped = true ∧ start.type ≠ stop.type)
          (Report.single edge.target.node (.mismatch (.edge edge start.type stop.type)))).also
          (if inScope = true then Report.clean else Report.single edge.source.node (.shape (localFault edge))) := by
  rw [edgeReport, source, target]
  simp only [Outcome.ok_bind, nearby]
  split
  · rfl
  · rw [when]
    split <;> cases inScope <;> rfl

theorem nodeReport_of_op {registry : Registry} (found : program.op node = .ok op) :
    program.nodeReport registry node = (program.portReport node op).also
      ((program.parentReport node op).also ((program.childrenReport node op).also
        ((Report.ofCheck node (checkOp registry op)).also (program.typeReport registry node op)))) := by
  rw [nodeReport, found]
  simp only [Report.also, Outcome.ok_bind, bind_assoc, pure_bind, List.append_assoc]

theorem validate_of_tree {registry : Registry} {requirements : Bool} {tree : List Node}
    (walked : program.descendants program.root = .ok tree) :
    program.validate registry requirements = program.integrityReport.also (program.rootReport.also
      (program.detachedReport.also ((Report.forEach tree (program.nodeReport registry)).also
        ((Report.forEach tree fun node => (program.edgesReport node).also (program.linksReport node)).also
          (when (requirements = true) program.requirementsReport))))) := by
  rw [validate, walked]
  simp only [Outcome.ok_bind, Report.also, when, bind_assoc, pure_bind, List.append_assoc]
  cases requirements <;> rfl

end NestedFlow.Program
