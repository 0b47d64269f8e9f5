import NestedFlow.Extension.Standard
import NestedFlow.Proofs.Program.Bare
import NestedFlow.Proofs.Program.Inference

/-! Finalizing a program reports what its validation reports, whether or not requirements are inferred on the way:
inference changes nothing but declared sets.
-/

set_option autoImplicit false

namespace NestedFlow

theorem Op.bare_withDeclared (op : Op) (delta : ExtensionSet) : (op.withDeclared delta).bare = op.bare := by
  cases op <;> rfl

namespace Program

open Report

variable {program : Program}

theorem bare_annotate (assignment : Node → ExtensionSet) :
    (program.annotate assignment).bare = program.bare := by
  have ops : (program.annotate assignment).bare.ops = program.bare.ops := by
    apply Table.ext_get?
    · simp only [bare, annotate, Table.keys_mapValues]
    · intro node
      simp only [bare, Table.get?_mapValues, get?_annotate, Option.map_map]
      congr 1
      funext op
      dsimp only [Function.comp_apply]
      split
      · exact op.bare_withDeclared _
      · rfl
  exact congrArg (fun ops => { program with ops := ops }) ops

/-- Whatever is declared for the undeclared regions, the rest of the validation reads the same. -/
theorem validate_annotate (program : Program) (registry : Registry) (assignment : Node → ExtensionSet) :
    ((program.annotate assignment).validate registry false).Alike (program.validate registry false) := by
  have same := validate_bare (program.annotate assignment) registry
  rw [bare_annotate] at same
  exact same.symm.trans (validate_bare program registry)

/-! ### Finalizing -/

/-- The requirements are reported last, if at all. -/
theorem validate_eq_also (program : Program) (registry : Registry) (requirements : Bool) :
    program.validate registry requirements =
      (program.validate registry false).also (when (requirements = true) program.requirementsReport) := by
  cases requirements <;>
    simp only [validate, Report.also, when, Report.clean, bind_assoc, pure_bind, List.append_assoc, List.append_nil,
      Bool.false_eq_true, if_false, if_true]

/-- What was found before validation comes after what validation finds. -/
theorem perform_finalize {registry : Registry} {config : Config} {late : List Error} {new : Program}
    (inferred : (if config.inference then inferLeniently config else pure []).run program = .ok late new) :
    (finalize registry config).perform program =
      ((new.validate registry config.requirements).also (.ok late), new) := by
  have steps : finalize registry config =
      ((if config.inference then inferLeniently config else pure []) >>= fun late =>
        Change.ask (fun program => program.validate registry config.requirements) >>= fun errors =>
          pure (errors ++ late)) := by
    rw [finalize]
    split <;> rfl
  rw [Change.perform_eq, steps, Change.run_bind_of_ok inferred, Change.run_ask_bind]
  cases new.validate registry config.requirements <;> rfl

section

variable {kids : Node → List Node} {found : Requirements}

theorem run_inferExtensions_of_errors (asked : program.requirements = .ok found) {error : Error} {rest : List Error}
    (complaints : found.errors = error :: rest) : inferExtensions.run program = .error error program := by
  have refused : program.inferred = .error error := by
    rw [inferred, asked, Outcome.ok_bind, complaints]
  simp only [inferExtensions, Change.run_ask_bind, refused]

/-- Inference that fails leaves the program alone; what it fails for is kept if validation will not report it. -/
theorem run_inferLeniently_of_errors (asked : program.requirements = .ok found) (small : found.errors ≠ [])
    (config : Config) : (inferLeniently config).run program =
      .ok (if config.requirements then [] else found.errors) program := by
  obtain ⟨error, rest, complaints⟩ := List.exists_cons_of_ne_nil small
  have run : inferExtensions program = .error error program := run_inferExtensions_of_errors asked complaints
  have listed : error ∈ found.errors := by simp [complaints]
  obtain ⟨⟨node, missing⟩, -, rfl⟩ := List.mem_map.1 listed
  change inferLeniently config program = _
  rw [inferLeniently, run]
  simp only [Error.onNode, requirementsReport, asked, Outcome.ok_bind, Outcome.pure_eq]
  split <;> rfl

theorem AgreesOn.run_inferLeniently (agrees : program.AgreesOn kids) (asked : program.requirements = .ok found)
    (enough : found.errors = []) (config : Config) :
    (inferLeniently config).run program = .ok [] (program.annotate found.written) := by
  have run : inferExtensions program = .ok found (program.annotate found.written) :=
    agrees.run_inferExtensions asked enough
  change inferLeniently config program = _
  rw [inferLeniently, run]

/-- Once inference has succeeded, no declared set is too small. -/
theorem AgreesOn.empty_requirementsReport_annotate (agrees : program.AgreesOn kids)
    (asked : program.requirements = .ok found) (enough : found.errors = []) :
    (program.annotate found.written).requirementsReport.Empty := by
  obtain ⟨others, again, none⟩ := agrees.solves_written asked enough
  rw [Report.Empty, requirementsReport, again, Outcome.ok_bind, none]
  rfl

end

/-- Finalizing a program reports its violations as they are without inference, then the declared sets that are too
small if requirements are inferred or checked, each of them once. What is declared on the way changes no violation. -/
theorem finalize_reads (reachable : Reachable program) (registry : Registry) (config : Config) :
    Alike ((finalize registry config).perform program).1 ((program.validate registry false).also
      (when (config.inference = true ∨ config.requirements = true) program.requirementsReport)) ∧
    (((finalize registry config).perform program).2.validate registry false).Alike
      (program.validate registry false) := by
  have agrees : program.AgreesOn program.hierarchy.children := reachable.consistent
  obtain ⟨found, asked, -⟩ := agrees.exists_requirements
  have declared : program.requirementsReport = .ok found.errors := by rw [requirementsReport, asked]; rfl
  cases inference : config.inference with
  | false =>
    have inferred : (if config.inference then inferLeniently config else pure []).run program = .ok [] program := by
      rw [inference]
      rfl
    rw [perform_finalize inferred, validate_eq_also]
    simp only [Bool.false_eq_true, false_or, also_nil]
    exact ⟨alike_refl _, alike_refl _⟩
  | true =>
    by_cases enough : found.errors = []
    · have inferred : (if config.inference then inferLeniently config else pure []).run program =
          .ok [] (program.annotate found.written) := by
        rw [inference]
        exact agrees.run_inferLeniently asked enough config
      have none : (when (config.requirements = true) (program.annotate found.written).requirementsReport).Empty :=
        empty_when_iff.2 fun _ => agrees.empty_requirementsReport_annotate asked enough
      rw [perform_finalize inferred, validate_eq_also, none, declared, enough]
      simp only [true_or, when, if_true, also_nil]
      exact ⟨validate_annotate program registry _, validate_annotate program registry _⟩
    · have inferred : (if config.inference then inferLeniently config else pure []).run program =
          .ok (if config.requirements then [] else found.errors) program := by
        rw [inference]
        exact run_inferLeniently_of_errors asked enough config
      rw [perform_finalize inferred, validate_eq_also, declared]
      simp only [true_or, when, if_true]
      -- either validation reports the requirements itself, or they are added to what it reports
      cases config.requirements with
      | false =>
        simp only [Bool.false_eq_true, if_false, clean, Outcome.pure_eq, also_nil]
        exact ⟨alike_refl _, alike_refl _⟩
      | true =>
        simp only [if_true, also_nil]
        exact ⟨alike_refl _, alike_refl _⟩

/-- A region without input and output, whose only child adds an extension to the values that pass it. -/
def lifting : Program := (Edit.addChild ⟨0, 0⟩ (.lift [] "quantum")).apply (ofRoot (.dfg [] [] none))

/-- The extension is declared on the way, and the region is reported as before. -/
theorem finalize_reads_lifting :
    (((finalize .prelude .standard).perform lifting).2.ops.get? lifting.root).bind Op.delta? =
      some (.ofName "quantum") ∧
    Alike ((finalize .prelude .standard).perform lifting).1 ((lifting.validate .prelude false).also
      (when (Config.standard.inference = true ∨ Config.standard.requirements = true) lifting.requirementsReport)) ∧
    (((finalize .prelude .standard).perform lifting).2.validate .prelude false).Alike
      (lifting.validate .prelude false) := by
  have reachable : Reachable lifting := .edited (.ofRoot _) _
  exact ⟨by decide +kernel, finalize_reads reachable .prelude .standard⟩

end Program

end NestedFlow
