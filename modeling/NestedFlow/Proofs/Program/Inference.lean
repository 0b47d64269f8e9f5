import NestedFlow.Proofs.Program.Reachable
import NestedFlow.Proofs.Program.Requirements

/-! Inference of requirements finds the least sets that the open regions of a program can declare.

The requirements of a program are compared with those of the same program with its open regions declared, from the
children of a node up to the node.
-/

set_option autoImplicit false

namespace NestedFlow

/-- The set that inference declares for a node. -/
def Requirements.written (found : Requirements) (node : Node) : ExtensionSet := found.undeclared.getD node ∅

/-- The operation with its requirements declared, if it can declare any. -/
def Op.withDeclared (op : Op) (delta : ExtensionSet) : Op := (op.withDelta? delta).getD op

theorem Op.withDeclared_eq {op declared : Op} {delta : ExtensionSet}
    (isDeclared : op.withDelta? delta = some declared) : op.withDeclared delta = declared := by
  rw [withDeclared, isDeclared, Option.getD_some]

namespace Program

/-- A region of the tree under the root that could declare its requirements, and does not. -/
def Undeclared (program : Program) (node : Node) : Prop :=
  node ∈ program.hierarchy.descendants program.root ∧ program.IsOpen node

/-- The program with sets declared for its undeclared regions. -/
def annotate (program : Program) (assignment : Node → ExtensionSet) : Program :=
  { program with
    ops := program.ops.mapValues fun node op =>
      if node ∈ program.hierarchy.descendants program.root ∧ op.delta? = none then op.withDeclared (assignment node)
      else op }

/-- With these sets for the undeclared regions no declared set is too small. -/
def Solves (program : Program) (assignment : Node → ExtensionSet) : Prop :=
  ∃ found, (program.annotate assignment).requirements = .ok found ∧ found.errors = []

/-- Inference succeeds if anything solves the program. What it declares is then the least solution, after which
nothing is left to be declared. -/
structure InfersLeast (program : Program) : Prop where
  succeeds_iff : (∃ found new, inferExtensions.run program = .ok found new) ↔
    ∃ assignment, program.Solves assignment
  declares : ∀ found new, inferExtensions.run program = .ok found new →
    (∀ node, node ∈ found.undeclared.keys ↔ program.Undeclared node) ∧ new = program.annotate found.written
  solves : ∀ found new, inferExtensions.run program = .ok found new → program.Solves found.written
  least : ∀ found new, inferExtensions.run program = .ok found new → ∀ assignment, program.Solves assignment →
    ∀ node, program.Undeclared node → (found.written node).Included (assignment node)
  settled : ∀ found new, inferExtensions.run program = .ok found new →
    ∃ again, inferExtensions.run new = .ok again new ∧ again.undeclared.entries = []

/-! ### Declared regions -/

section

variable {program : Program} {assignment : Node → ExtensionSet} {node : Node}

theorem get?_annotate (node : Node) :
    (program.annotate assignment).ops.get? node = (program.ops.get? node).map fun op =>
      if node ∈ program.hierarchy.descendants program.root ∧ op.delta? = none then op.withDeclared (assignment node)
      else op := Table.get?_mapValues ..

theorem Undeclared.exists_declared (undeclared : program.Undeclared node) (assignment : Node → ExtensionSet) :
    ∃ op declared, program.ops.get? node = some op ∧ op.delta? = none ∧
      op.withDelta? (assignment node) = some declared ∧
      (program.annotate assignment).ops.get? node = some declared := by
  obtain ⟨inTree, op, found, annotatable, none⟩ := undeclared
  obtain ⟨declared, isDeclared⟩ := Op.exists_withDelta? annotatable (assignment node)
  refine ⟨op, declared, found, none, isDeclared, ?_⟩
  rw [get?_annotate, found, Option.map_some, if_pos ⟨inTree, none⟩, Op.withDeclared_eq isDeclared]

theorem get?_annotate_of_not (declared : ¬ program.Undeclared node) :
    (program.annotate assignment).ops.get? node = program.ops.get? node := by
  rw [get?_annotate]
  cases found : program.ops.get? node with
  | none => rfl
  | some op =>
    rw [Option.map_some]
    split
    · rename_i isOpen
      -- only what can be annotated has another form with a set
      cases annotatable : op.isAnnotatable with
      | true => exact absurd ⟨isOpen.1, op, found, annotatable, isOpen.2⟩ declared
      | false => rw [Op.withDeclared, Op.withDelta?_of_not_annotatable annotatable, Option.getD_none]
    · rfl

theorem isContainer_annotate_iff :
    (program.annotate assignment).IsContainer node ↔ program.IsContainer node := by
  by_cases undeclared : program.Undeclared node
  · obtain ⟨op, declared, -, -, isDeclared, found⟩ := undeclared.exists_declared assignment
    refine iff_of_true ⟨declared, found, ?_⟩ undeclared.2.isContainer
    exact Op.isContainer_of_isAnnotatable (Op.isAnnotatable_withDelta? isDeclared)
  · rw [IsContainer, get?_annotate_of_not undeclared]
    rfl

/-- A region that was undeclared adds the set that is declared for it. -/
theorem share_annotate_of_undeclared (undeclared : program.Undeclared node) (need : Node → ExtensionSet) :
    (program.annotate assignment).share need node = program.share assignment node := by
  obtain ⟨op, declared, isOp, none, isDeclared, found⟩ := undeclared.exists_declared assignment
  rw [share, share, found, isOp]
  simp only [Op.isDefinition_withDelta? isDeclared, Op.delta?_withDelta? isDeclared, none, Option.getD_some,
    Option.getD_none]

theorem share_annotate_of_not (declared : ¬ program.Undeclared node) (need : Node → ExtensionSet) :
    (program.annotate assignment).share need node = program.share need node := by
  rw [share, share, get?_annotate_of_not declared]

theorem covers_annotate_of_undeclared (undeclared : program.Undeclared node) (need : Node → ExtensionSet) :
    (program.annotate assignment).Covers need node ↔ (need node).Included (assignment node) := by
  obtain ⟨op, declared, -, -, isDeclared, found⟩ := undeclared.exists_declared assignment
  have container := Op.isContainer_of_isAnnotatable (Op.isAnnotatable_withDelta? isDeclared)
  rw [AgreesOn.covers_iff found container, Op.delta?_withDelta? isDeclared, Option.all_some, ExtensionSet.subset_iff]

theorem covers_annotate_of_not (declared : ¬ program.Undeclared node) (need : Node → ExtensionSet) :
    (program.annotate assignment).Covers need node ↔ program.Covers need node := by
  rw [Covers, get?_annotate_of_not declared]
  rfl

theorem covers_of_undeclared (undeclared : program.Undeclared node) (need : Node → ExtensionSet) :
    program.Covers need node := by
  obtain ⟨-, op, found, annotatable, none⟩ := undeclared
  rw [AgreesOn.covers_iff found (Op.isContainer_of_isAnnotatable annotatable), none]
  rfl

/-- More requirements add more to the parent. -/
theorem share_included {need others : Node → ExtensionSet} (included : (need node).Included (others node)) :
    (program.share need node).Included (program.share others node) := by
  rw [share, share]
  cases program.ops.get? node with
  | none => exact ExtensionSet.included_refl _
  | some op =>
    simp only
    split
    · exact ExtensionSet.included_refl _
    · cases op.delta? with
      | none => exact included
      | some declared => exact ExtensionSet.included_refl _

theorem annotate_congr {other : Node → ExtensionSet}
    (same : ∀ node, program.Undeclared node → assignment node = other node) :
    program.annotate assignment = program.annotate other := by
  have ops : (program.annotate assignment).ops = (program.annotate other).ops := by
    apply Table.ext_get?
    · exact (Table.keys_mapValues ..).trans (Table.keys_mapValues ..).symm
    · intro node
      by_cases undeclared : program.Undeclared node
      · rw [get?_annotate, get?_annotate, same node undeclared]
      · rw [get?_annotate_of_not undeclared, get?_annotate_of_not undeclared]
  exact congrArg (fun ops => { program with ops := ops }) ops

theorem annotate_eq_self (declared : ∀ node, ¬ program.Undeclared node) : program.annotate assignment = program := by
  have ops : (program.annotate assignment).ops = program.ops :=
    Table.ext_get? (Table.keys_mapValues ..) fun node => get?_annotate_of_not (declared node)
  exact congrArg (fun ops => { program with ops := ops }) ops

theorem not_undeclared_annotate (assignment : Node → ExtensionSet) (node : Node) :
    ¬ (program.annotate assignment).Undeclared node := by
  rintro ⟨inTree, isOpen⟩
  by_cases undeclared : program.Undeclared node
  · obtain ⟨op, declared, -, -, isDeclared, found⟩ := undeclared.exists_declared assignment
    obtain ⟨other, held, -, none⟩ := isOpen
    rw [found, Option.some.injEq] at held
    rw [← held, Op.delta?_withDelta? isDeclared] at none
    cases none
  · rw [IsOpen, get?_annotate_of_not undeclared] at isOpen
    exact undeclared ⟨inTree, isOpen⟩

end

/-! ### Declaring one set after another -/

def declaring (program : Program) (entries : List (Node × ExtensionSet)) : Program :=
  { program with
    ops := entries.foldl (fun ops entry => ops.modify entry.1 fun op => op.withDeclared entry.2) program.ops }

section

variable {program : Program} {entries : List (Node × ExtensionSet)}

theorem foldl_declaring (program : Program) (entries : List (Node × ExtensionSet)) :
    entries.foldl (fun program entry => program.declaring [entry]) program = program.declaring entries := by
  induction entries generalizing program with
  | nil => rfl
  | cons entry rest ih => exact ih (program.declaring [entry])

theorem get?_declaring_of_mem (distinct : (entries.map Prod.fst).Nodup) {entry : Node × ExtensionSet}
    (member : entry ∈ entries) :
    (program.declaring entries).ops.get? entry.1 = (program.ops.get? entry.1).map fun op => op.withDeclared entry.2 :=
  Table.get?_foldl_modify_of_mem (fun (entry : Node × ExtensionSet) (op : Op) => op.withDeclared entry.2) distinct
    member

theorem get?_declaring_of_not_mem {node : Node} (absent : node ∉ entries.map Prod.fst) :
    (program.declaring entries).ops.get? node = program.ops.get? node :=
  Table.get?_foldl_modify_of_not_mem (fun (entry : Node × ExtensionSet) (op : Op) => op.withDeclared entry.2) absent

end

/-! ### Requirements as equations -/

namespace Tally

variable {program : Program} {kids : Node → List Node} {done : List Node} {found : Requirements}

theorem need_eq (tally : program.Tally kids done found) {node : Node} (isDone : node ∈ done)
    (container : program.IsContainer node) :
    found.need node = ExtensionSet.unionAll ((kids node).map (program.share found.need)) := by
  rw [Requirements.need, Table.getD_eq, (tally.required_iff node _).2 ⟨isDone, container, rfl⟩, Option.getD_some]

theorem need_of_leaf (tally : program.Tally kids done found) {node : Node} (leaf : ¬ program.IsContainer node) :
    found.need node = ∅ := by
  have absent : found.required.get? node = none :=
    Option.eq_none_iff_forall_ne_some.2 fun set get => leaf ((tally.required_iff node set).1 get).2.1
  rw [Requirements.need, Table.getD_eq, absent, Option.getD_none]

end Tally

namespace AgreesOn

variable {program : Program} {kids : Node → List Node}

theorem annotate (agrees : program.AgreesOn kids) (assignment : Node → ExtensionSet) :
    (program.annotate assignment).AgreesOn kids where
  graph := agrees.graph
  stores := agrees.stores
  ops_iff node := by
    have keys : (program.annotate assignment).ops.keys = program.ops.keys := Table.keys_mapValues ..
    rw [keys]
    exact agrees.ops_iff node
  metadata_live := agrees.metadata_live
  kids_live := agrees.kids_live
  root_live := agrees.root_live
  root_top := agrees.root_top
  portTotals node op found direction := by
    by_cases undeclared : program.Undeclared node
    · obtain ⟨old, declared, isOld, -, isDeclared, get⟩ := undeclared.exists_declared assignment
      rw [get, Option.some.injEq] at found
      rw [← found, Op.portCount_withDelta? isDeclared]
      exact agrees.portTotals node old isOld direction
    · rw [get?_annotate_of_not undeclared] at found
      exact agrees.portTotals node op found direction

/-! ### Soundness and minimality -/

section

variable {assignment : Node → ExtensionSet} {found others : Requirements} {tree : List Node}

/-- The requirements of a program are included in those of any solution of it. -/
theorem need_included (agrees : program.AgreesOn kids) (closed : ∀ node ∈ tree, ∀ child ∈ kids node, child ∈ tree)
    (tally : program.Tally kids tree found) (annotated : (program.annotate assignment).Tally kids tree others)
    (solves : ∀ node ∈ tree, program.Undeclared node → (others.need node).Included (assignment node)) {node : Node}
    (inTree : node ∈ tree) : (found.need node).Included (others.need node) := by
  -- from the children of a node up to the node
  induction node using agrees.stores.founded_below.induction with
  | _ node ih =>
    by_cases container : program.IsContainer node
    · rw [tally.need_eq inTree container, annotated.need_eq inTree (isContainer_annotate_iff.2 container),
        ExtensionSet.unionAll_included_iff, List.forall_mem_map]
      intro child isChild
      have childIn := closed node inTree child isChild
      have below := ih child isChild childIn
      refine ExtensionSet.Included.trans ?_ (ExtensionSet.included_unionAll (List.mem_map_of_mem isChild))
      by_cases undeclared : program.Undeclared child
      · -- a solution lets an undeclared region add what is declared for it, which is no less than it needs
        rw [share_annotate_of_undeclared undeclared]
        exact share_included (below.trans (solves child childIn undeclared))
      · rw [share_annotate_of_not undeclared]
        exact share_included below
    · rw [tally.need_of_leaf container]
      exact ExtensionSet.empty_included _

/-- If every undeclared region declares its requirement, then no requirement changes. -/
theorem need_annotate (agrees : program.AgreesOn kids) (closed : ∀ node ∈ tree, ∀ child ∈ kids node, child ∈ tree)
    (tally : program.Tally kids tree found) (annotated : (program.annotate found.need).Tally kids tree others)
    {node : Node} (inTree : node ∈ tree) : others.need node = found.need node := by
  induction node using agrees.stores.founded_below.induction with
  | _ node ih =>
    by_cases container : program.IsContainer node
    · rw [tally.need_eq inTree container, annotated.need_eq inTree (isContainer_annotate_iff.2 container)]
      congr 1
      apply List.map_congr_left
      intro child isChild
      by_cases undeclared : program.Undeclared child
      · rw [share_annotate_of_undeclared undeclared]
      · rw [share_annotate_of_not undeclared]
        exact share_congr (ih child isChild (closed node inTree child isChild))
    · have leaf : ¬ (program.annotate found.need).IsContainer node := isContainer_annotate_iff.not.2 container
      rw [tally.need_of_leaf container, annotated.need_of_leaf leaf]

end

/-- The requirements of the tree under the root, with the tree closed under children. -/
theorem exists_tally (agrees : program.AgreesOn kids) :
    ∃ tree found, (∀ node, node ∈ tree ↔ node ∈ program.hierarchy.descendants program.root) ∧
      (∀ node ∈ tree, ∀ child ∈ kids node, child ∈ tree) ∧ program.requirements = .ok found ∧
      program.Tally kids tree found ∧ ∀ assignment, ∃ others,
        (program.annotate assignment).requirements = .ok others ∧
        (program.annotate assignment).Tally kids tree others := by
  obtain ⟨found, asked, tally⟩ := agrees.exists_requirements
  refine ⟨_, found, fun _ => List.mem_reverse, ?_, asked, tally, fun assignment =>
    (agrees.annotate assignment).exists_requirements⟩
  intro node inTree child isChild
  rw [List.mem_reverse] at inTree ⊢
  exact agrees.stores.mem_descendants_of_child inTree isChild

/-- Any solution includes the requirements, which are no reason to complain then. -/
theorem errors_of_solves (agrees : program.AgreesOn kids) {assignment : Node → ExtensionSet} {found : Requirements}
    (asked : program.requirements = .ok found) (solves : program.Solves assignment) :
    found.errors = [] ∧ ∀ node, program.Undeclared node → (found.need node).Included (assignment node) := by
  obtain ⟨tree, known, inTree, closed, again, tally, annotated⟩ := agrees.exists_tally
  rw [asked, Except.ok.injEq] at again
  subst again
  obtain ⟨others, askedOthers, tallyOthers⟩ := annotated assignment
  obtain ⟨annotatedFound, asksAgain, none⟩ := solves
  rw [askedOthers, Except.ok.injEq] at asksAgain
  subst asksAgain
  rw [Requirements.errors_eq_nil_iff, tallyOthers.missing_iff] at none
  -- nothing is missing with the solution, so a region declares no less there than it needs there
  have enough : ∀ node ∈ tree, program.Undeclared node → (others.need node).Included (assignment node) :=
    fun node mem undeclared => (covers_annotate_of_undeclared undeclared _).1 (none node mem)
  have lower : ∀ node ∈ tree, (found.need node).Included (others.need node) :=
    fun node mem => agrees.need_included closed tally tallyOthers enough mem
  constructor
  · rw [Requirements.errors_eq_nil_iff, tally.missing_iff]
    intro node mem
    by_cases undeclared : program.Undeclared node
    · exact covers_of_undeclared undeclared _
    · -- a set that was declared before is the same in both, and covers the larger need
      intro op declared isOp container declares
      have covered := (covers_annotate_of_not undeclared _).1 (none node mem)
      exact (lower node mem).trans (covered op declared isOp container declares)
  · intro node undeclared
    have mem := (inTree node).2 undeclared.1
    exact (lower node mem).trans (enough node mem undeclared)

/-- The requirements solve the program if they are no reason to complain. -/
theorem solves_need (agrees : program.AgreesOn kids) {found : Requirements}
    (asked : program.requirements = .ok found) (none : found.errors = []) : program.Solves found.need := by
  obtain ⟨tree, known, inTree, closed, again, tally, annotated⟩ := agrees.exists_tally
  rw [asked, Except.ok.injEq] at again
  subst again
  obtain ⟨others, askedOthers, tallyOthers⟩ := annotated found.need
  rw [Requirements.errors_eq_nil_iff, tally.missing_iff] at none
  refine ⟨others, askedOthers, ?_⟩
  rw [Requirements.errors_eq_nil_iff, tallyOthers.missing_iff]
  intro node mem
  have need := agrees.need_annotate closed tally tallyOthers mem
  by_cases undeclared : program.Undeclared node
  · rw [covers_annotate_of_undeclared undeclared, need]
    exact ExtensionSet.included_refl _
  · rw [covers_annotate_of_not undeclared, Covers, need]
    exact none node mem

/-! ### Running the inference -/

/-- What is found to be undeclared is so, and gets its requirement. -/
theorem undeclared_iff (agrees : program.AgreesOn kids) {found : Requirements}
    (asked : program.requirements = .ok found) (node : Node) (set : ExtensionSet) :
    found.undeclared.get? node = some set ↔ program.Undeclared node ∧ set = found.need node := by
  obtain ⟨other, again, tally⟩ := agrees.exists_requirements
  rw [asked, Except.ok.injEq] at again
  subst again
  rw [tally.undeclared_iff, List.mem_reverse, Undeclared, and_assoc]

theorem written_eq_need (agrees : program.AgreesOn kids) {found : Requirements}
    (asked : program.requirements = .ok found) {node : Node} (undeclared : program.Undeclared node) :
    found.written node = found.need node := by
  rw [Requirements.written, Table.getD_eq, (agrees.undeclared_iff asked node _).2 ⟨undeclared, rfl⟩, Option.getD_some]

/-- Declaring sets for distinct regions changes their operations, one after another. -/
theorem run_declareEach {entries : List (Node × ExtensionSet)} (distinct : (entries.map Prod.fst).Nodup)
    (annotatable : program.Annotatable (entries.map Prod.fst)) :
    (entries.forM fun (node, delta) => declare node delta).run program = .ok () (program.declaring entries) := by
  rw [← foldl_declaring]
  apply Change.run_forM
  intro before entry after split
  rw [split, List.map_append, List.map_cons] at distinct
  obtain ⟨op, found, isAnnotatable⟩ := annotatable entry.1 (by simp [split])
  obtain ⟨declared, isDeclared⟩ := Op.exists_withDelta? isAnnotatable entry.2
  -- the operation has not been touched by the rounds before
  have still : (program.declaring before).ops.get? entry.1 = some op := by
    rw [get?_declaring_of_not_mem (not_mem_of_split distinct), found]
  have next : (program.declaring before).declaring [entry] =
      { program.declaring before with ops := (program.declaring before).ops.insert entry.1 declared } := by
    rw [declaring, List.foldl_cons, List.foldl_nil, Table.modify_of_get? still, Op.withDeclared_eq isDeclared]
  rw [foldl_declaring, next]
  simp only [declare, Change.run_ask_bind, entry_eq_ok_iff.2 still, Op.declare, isDeclared, Outcome.pure_eq,
    Change.run_modify]

/-- Declaring what was found to be undeclared is the annotation with it. -/
theorem declaring_undeclared (agrees : program.AgreesOn kids) {found : Requirements}
    (asked : program.requirements = .ok found) :
    program.declaring found.undeclared.entries = program.annotate found.written := by
  have ops : (program.declaring found.undeclared.entries).ops = (program.annotate found.written).ops := by
    apply Table.ext_get?
    · exact (Table.keys_foldl_modify ..).trans (Table.keys_mapValues ..).symm
    · intro node
      cases get : found.undeclared.get? node with
      | some set =>
        obtain ⟨undeclared, -⟩ := (agrees.undeclared_iff asked node set).1 get
        obtain ⟨op, declared, isOp, -, isDeclared, after⟩ := undeclared.exists_declared found.written
        have written : found.written node = set := by rw [Requirements.written, Table.getD_eq, get, Option.getD_some]
        rw [written] at isDeclared
        rw [get?_declaring_of_mem found.undeclared.nodup ((Table.get?_eq_some_iff _ node set).1 get), after, isOp,
          Option.map_some, Op.withDeclared_eq isDeclared]
      | none =>
        have declared : ¬ program.Undeclared node := by
          intro undeclared
          rw [(agrees.undeclared_iff asked node _).2 ⟨undeclared, rfl⟩] at get
          cases get
        rw [get?_declaring_of_not_mem ((Table.get?_eq_none_iff _ node).1 get), get?_annotate_of_not declared]
  exact congrArg (fun ops => { program with ops := ops }) ops

theorem run_inferExtensions (agrees : program.AgreesOn kids) {found : Requirements}
    (asked : program.requirements = .ok found) (none : found.errors = []) :
    inferExtensions.run program = .ok found (program.annotate found.written) := by
  have inferred : program.inferred = .ok found := by
    rw [Program.inferred, asked, Outcome.ok_bind, none]
    rfl
  have run := run_declareEach found.undeclared.nodup (inferred_annotatable inferred)
  simp only [inferExtensions, Change.run_ask_bind, inferred]
  rw [Change.run_bind_of_ok run, Change.run_pure, agrees.declaring_undeclared asked]

theorem inferExtensions_eq_ok_iff (agrees : program.AgreesOn kids) {found : Requirements} {new : Program} :
    inferExtensions.run program = .ok found new ↔
      program.requirements = .ok found ∧ found.errors = [] ∧ new = program.annotate found.written := by
  constructor
  · intro run
    obtain ⟨others, asked, -⟩ := agrees.exists_requirements
    cases complaints : others.errors with
    | nil =>
      rw [agrees.run_inferExtensions asked complaints, EStateM.Result.ok.injEq] at run
      obtain ⟨rfl, rfl⟩ := run
      exact ⟨asked, complaints, rfl⟩
    | cons error rest =>
      -- the first complaint ends the inference before anything is declared
      have refused : program.inferred = .error error := by
        rw [Program.inferred, asked, Outcome.ok_bind, complaints]
      simp only [inferExtensions, Change.run_ask_bind, refused] at run
      cases run
  · rintro ⟨asked, none, rfl⟩
    exact agrees.run_inferExtensions asked none

theorem solves_written (agrees : program.AgreesOn kids) {found : Requirements}
    (asked : program.requirements = .ok found) (none : found.errors = []) : program.Solves found.written := by
  rw [Solves, annotate_congr fun node undeclared => agrees.written_eq_need asked undeclared]
  exact agrees.solves_need asked none

/-- After its undeclared regions have got sets that solve it, a program is left alone. -/
theorem run_inferExtensions_again (agrees : program.AgreesOn kids) {assignment : Node → ExtensionSet}
    (solves : program.Solves assignment) : ∃ again,
      inferExtensions.run (program.annotate assignment) = .ok again (program.annotate assignment) ∧
      again.undeclared.entries = [] := by
  obtain ⟨found, asked, none⟩ := solves
  have annotated := agrees.annotate assignment
  refine ⟨found, ?_, ?_⟩
  · rw [annotated.run_inferExtensions asked none, annotate_eq_self (not_undeclared_annotate assignment)]
  · rw [List.eq_nil_iff_forall_not_mem]
    rintro ⟨node, set⟩ member
    have get := (Table.get?_eq_some_iff _ node set).2 member
    exact not_undeclared_annotate assignment node ((annotated.undeclared_iff asked node set).1 get).1

theorem infersLeast (agrees : program.AgreesOn kids) : program.InfersLeast := by
  obtain ⟨found, asked, -⟩ := agrees.exists_requirements
  constructor
  case succeeds_iff =>
    constructor
    · rintro ⟨others, new, run⟩
      obtain ⟨askedOthers, none, -⟩ := agrees.inferExtensions_eq_ok_iff.1 run
      exact ⟨_, agrees.solves_written askedOthers none⟩
    · rintro ⟨assignment, solves⟩
      exact ⟨found, _, agrees.run_inferExtensions asked (agrees.errors_of_solves asked solves).1⟩
  case declares =>
    intro others new run
    obtain ⟨askedOthers, -, same⟩ := agrees.inferExtensions_eq_ok_iff.1 run
    refine ⟨fun node => ?_, same⟩
    rw [Table.mem_keys_iff_get?]
    simp only [agrees.undeclared_iff askedOthers, exists_and_left, exists_eq, and_true]
  case solves =>
    intro others new run
    obtain ⟨askedOthers, none, -⟩ := agrees.inferExtensions_eq_ok_iff.1 run
    exact agrees.solves_written askedOthers none
  case least =>
    intro others new run assignment solves node undeclared
    obtain ⟨askedOthers, -, -⟩ := agrees.inferExtensions_eq_ok_iff.1 run
    rw [agrees.written_eq_need askedOthers undeclared]
    exact (agrees.errors_of_solves askedOthers solves).2 node undeclared
  case settled =>
    intro others new run
    obtain ⟨askedOthers, none, rfl⟩ := agrees.inferExtensions_eq_ok_iff.1 run
    exact agrees.run_inferExtensions_again (agrees.solves_written askedOthers none)

end AgreesOn

/-- However a program was built and edited, inference finds the least sets that its undeclared regions can declare. -/
theorem infers_least {program : Program} (reachable : Reachable program) : program.InfersLeast :=
  have agrees : program.AgreesOn program.hierarchy.children := reachable.consistent
  agrees.infersLeast

/-- A region with nothing declared whose only child adds an extension to the values that pass it. -/
theorem infers_least_lift :
    ((Edit.addChild ⟨0, 0⟩ (.lift [] "quantum")).apply (ofRoot (.dfg [] [] none))).InfersLeast :=
  infers_least (.edited (.ofRoot _) _)

end Program

end NestedFlow
