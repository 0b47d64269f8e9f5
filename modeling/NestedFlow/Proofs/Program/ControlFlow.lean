import NestedFlow.Extension.Standard
import NestedFlow.Proofs.Program.Accepted

/-! Control flow in accepted programs.

A walk through a control-flow region starts at its first child and takes one variant of a block after another. It
never gets stuck: every variant leads to a single successor in the region, which takes the values that are passed to
it, until an exit is reached with the outputs of the region.
-/

set_option autoImplicit false

namespace NestedFlow.Program

open Hierarchy Report

/-- The places that a walk from a node can get to by a list of variants, with the values that are passed there. -/
inductive Walk (program : Program) (start : Node) (values : Row) : List Nat → Node → Row → Prop where
  | here : Walk program start values [] start values
  | follow {taken : List Nat} {block : Node} {row inputs otherOutputs passed : Row} {sumRows : List Row}
      {delta : Option ExtensionSet} {variant : Nat} {edges : List Edge} {edge : Edge}
      (before : Walk program start values taken block row)
      (isBlock : program.op block = .ok (.block inputs sumRows otherOutputs delta))
      (gives : Op.successorInput? sumRows otherOutputs variant = some passed)
      (asked : program.portEdges (block.outputPort variant) = .ok edges) (leaves : edge ∈ edges) :
      Walk program start values (taken ++ [variant]) edge.target.node passed

/-- A variant of a block leads to one child of the region, which takes what the block gives. -/
structure Leads (program : Program) (region block : Node) (sumRows : List Row) (otherOutputs : Row) (variant : Nat)
    (edge : Edge) (passed : Row) : Prop where
  single : program.portEdges (block.outputPort variant) = .ok [edge]
  child : program.parent? edge.target.node = .ok (some region)
  gives : Op.successorInput? sumRows otherOutputs variant = some passed
  takes : ∃ op, program.op edge.target.node = .ok op ∧ blockInputs? op = some passed

/-- Where a walk through a region with some outputs may be, and what is passed there: a block that takes it and whose
variants all lead on, or an exit from which nothing leads on and which takes the outputs of the region. -/
inductive OnTrack (program : Program) (region : Node) (outputs : Row) : Node → Row → Prop where
  | block {node : Node} {inputs otherOutputs : Row} {sumRows : List Row} {delta : Option ExtensionSet}
      (child : program.parent? node = .ok (some region))
      (isBlock : program.op node = .ok (.block inputs sumRows otherOutputs delta))
      (leads : ∀ variant < sumRows.length, ∃ edge passed,
        program.Leads region node sumRows otherOutputs variant edge passed) :
      OnTrack program region outputs node inputs
  | exit {node : Node} (child : program.parent? node = .ok (some region))
      (isExit : program.op node = .ok (.exit outputs)) (ends : program.graph.numPorts node .outgoing = .ok 0) :
      OnTrack program region outputs node outputs

/-- Nothing but an exit, or a number that is no variant of the block, stops a walk. -/
inductive Stops (program : Program) : Node → List Nat → Prop where
  | done (node : Node) : Stops program node []
  | exit {node : Node} {outputs : Row} (isExit : program.op node = .ok (.exit outputs)) (variants : List Nat) :
    Stops program node variants
  | noVariant {node : Node} {inputs otherOutputs : Row} {sumRows : List Row} {delta : Option ExtensionSet}
      (isBlock : program.op node = .ok (.block inputs sumRows otherOutputs delta)) {variant : Nat}
      (beyond : sumRows.length ≤ variant) (variants : List Nat) : Stops program node (variant :: variants)

/-- Walks from the first child of a region: it is a block with the inputs of the region, and walks from there are
determined by the variants that are taken, stay on track, and go on for as long as variants of the blocks are given. -/
structure NeverStuck (program : Program) (region first : Node) (inputs outputs : Row) : Prop where
  entry : ∃ sumRows otherOutputs delta, program.op first = .ok (.block inputs sumRows otherOutputs delta)
  onTrack : ∀ taken node row, program.Walk first inputs taken node row → program.OnTrack region outputs node row
  determined : ∀ taken node row other values, program.Walk first inputs taken node row →
    program.Walk first inputs taken other values → node = other ∧ row = values
  goesOn : ∀ variants, ∃ taken left node row, variants = taken ++ left ∧
    program.Walk first inputs taken node row ∧ program.Stops node left

/-- The children of control-flow regions are blocks and exits. -/
theorem exists_blockInputs {op : Op} (allowed : OpTag.isSuperset .controlFlowChild op.opTag = true) :
    ∃ row, blockInputs? op = some row := by
  cases op <;> first | exact ⟨_, rfl⟩ | cases allowed

/-- A region of control starts at a block. -/
theorem exists_block {op : Op} (first : OpTag.isSuperset .block op.opTag = true) :
    ∃ inputs sumRows otherOutputs delta, op = .block inputs sumRows otherOutputs delta := by
  cases op <;> first | exact ⟨_, _, _, _, rfl⟩ | cases first

theorem portKind?_block {inputs otherOutputs : Row} {sumRows : List Row} {delta : Option ExtensionSet} {variant : Nat}
    (inside : variant < sumRows.length) :
    (Op.block inputs sumRows otherOutputs delta).portKind? .outgoing variant = some ⟨.controlFlow, none⟩ := by
  have nonnegative : ¬ (variant : Int) < 0 := by omega
  simp [Op.portKind?, nonnegative, Op.valueTypes, Op.signature?, Op.staticType?, Op.otherKind?, Op.otherPorts, inside]

namespace AgreesOn

variable {program : Program} {kids : Node → List Node}

/-- Control edges of a block end in the region of the block. -/
theorem Joined.controlled {edge : Edge} {op : Op} (joined : Joined program kids edge)
    (found : program.ops.get? edge.source.node = some op)
    (known : op.portKind? edge.source.direction edge.source.offset = some ⟨.controlFlow, none⟩) :
    edge.kind = .controlFlow ∧ ∃ region, edge.source.node ∈ kids region ∧ edge.target.node ∈ kids region := by
  obtain ⟨first, second, start, stop, atSource, -, isStart, -, startKind, -, -, region, isChild, nearby⟩ := joined
  obtain rfl : first = op := Option.some.inj (atSource.symm.trans found)
  obtain rfl : start = ⟨.controlFlow, none⟩ := Option.some.inj (isStart.symm.trans known)
  rw [← startKind] at nearby
  exact ⟨startKind.symm, region, isChild, nearby.1⟩

/-- The edges at a variant of a block are control edges to children of the region. -/
theorem controlled_edgesAt {registry : Registry} {requirements : Bool} (agrees : program.AgreesOn kids)
    (accepted : (program.validate registry requirements).Empty) {region block : Node} (isChild : block ∈ kids region)
    {op : Op} (isBlock : program.ops.get? block = some op) {variant : Nat}
    (known : op.portKind? .outgoing variant = some ⟨.controlFlow, none⟩) {edge : Edge}
    (leaves : edge ∈ program.graph.edgesAt (block.outputPort variant)) :
    edge.kind = .controlFlow ∧ edge.target.node ∈ kids region := by
  obtain ⟨link, recorded, atPort, isEdge⟩ := agrees.graph.mem_edgesAt.1 leaves
  have source : edge.source = block.outputPort variant := by
    rw [isEdge]
    exact atPort
  have joined : Joined program kids edge := isEdge ▸ agrees.joined_of_accepted accepted recorded
  obtain ⟨kind, other, sourceChild, targetChild⟩ :=
    joined.controlled (by rw [source]; exact isBlock) (by rw [source]; exact known)
  rw [source] at sourceChild
  exact ⟨kind, agrees.stores.parent_unique isChild sourceChild ▸ targetChild⟩

section

variable {registry : Registry} {requirements : Bool} (agrees : program.AgreesOn kids)
  (accepted : (program.validate registry requirements).Empty) {region : Node} {inputs outputs : Row}
  {delta : Option ExtensionSet} (isRegion : program.ops.get? region = some (.cfg inputs outputs delta))

include agrees accepted isRegion

/-- What acceptance says of a control-flow region: how it begins, where it ends, and what its blocks lead to. -/
theorem controlReport_of_accepted : ∃ first rest, kids region = first :: rest ∧
    (∃ sumRows otherOutputs delta, program.ops.get? first = some (.block inputs sumRows otherOutputs delta)) ∧
    (∀ child ∈ kids region, ∀ row, program.ops.get? child = some (.exit row) → row = outputs) ∧
    ∀ child ∈ kids region, (program.blockReport child).Empty := by
  have live := agrees.contains_of_get? isRegion
  obtain ⟨-, children, -, -⟩ := agrees.nodeReport_of_accepted accepted isRegion
  obtain ⟨some, parts⟩ := (agrees.empty_childrenReport_iff live).1 children
  cases listed : kids region with
  | nil => cases some listed
  | cons first rest =>
    have alive : ∀ child ∈ first :: rest, program.graph.contains child = true := by
      rw [← listed]
      exact fun child isChild => (agrees.kids_live region child isChild).1
    obtain ⟨firstReport, -, -, -, kind⟩ := parts first rest listed OpTag.noConfusion
    obtain ⟨entry, -, ends, blocks⟩ := (agrees.empty_controlReport_iff alive).1 kind
    obtain ⟨op, isFirst⟩ := agrees.get?_of_contains (alive first List.mem_cons_self)
    rw [Report.Empty, firstChildReport, agrees.op_eq_ok_iff.2 isFirst, Outcome.ok_bind] at firstReport
    obtain ⟨found, sumRows, otherOutputs, own, rfl⟩ := exists_block (empty_ite_iff.1 firstReport)
    have entered := entry first List.mem_cons_self
    rw [Report.Empty, entryReport, agrees.op_eq_ok_iff.2 isFirst, Outcome.ok_bind] at entered
    obtain rfl : found = inputs := empty_ite_iff.1 entered
    refine ⟨first, rest, rfl, ⟨sumRows, otherOutputs, own, isFirst⟩, fun child isChild row isExit => ?_, blocks⟩
    refine ends (child, row) (List.mem_flatMap.2 ⟨child, isChild, ?_⟩)
    rw [exitAt, isExit]
    exact List.mem_singleton_self _

/-- What a child takes, which is a block or an exit. -/
theorem exists_row {child : Node} (isChild : child ∈ kids region) :
    ∃ op row, program.ops.get? child = some op ∧ blockInputs? op = some row := by
  obtain ⟨op, found⟩ := agrees.get?_of_contains (agrees.kids_live region child isChild).1
  obtain ⟨row, takes⟩ := exists_blockInputs (agrees.allowed_of_accepted accepted isChild isRegion found)
  exact ⟨op, row, found, takes⟩

/-- One step of a walk. -/
theorem exists_leads {block : Node} (isChild : block ∈ kids region) {taken otherOutputs : Row} {sumRows : List Row}
    {own : Option ExtensionSet} (isBlock : program.ops.get? block = some (.block taken sumRows otherOutputs own))
    {variant : Nat} (inside : variant < sumRows.length) :
    ∃ edge passed, program.Leads region block sumRows otherOutputs variant edge passed := by
  obtain ⟨-, -, -, -, -, blocks⟩ := agrees.controlReport_of_accepted accepted isRegion
  have known : (Op.block taken sumRows otherOutputs own).portKind? .outgoing variant = some ⟨.controlFlow, none⟩ :=
    portKind?_block inside
  have has : program.graph.HasPort (block.outputPort variant) := agrees.hasPort_of_portKind? isBlock known
  have controlled : ∀ edge ∈ program.graph.edgesAt (block.outputPort variant),
      edge.kind = .controlFlow ∧ edge.target.node ∈ kids region :=
    fun edge leaves => agrees.controlled_edgesAt accepted isChild isBlock known leaves
  -- the report asks for a single control edge, and there are no other edges at the port
  have report := blocks block isChild
  rw [Report.Empty, blockReport, agrees.op_eq_ok_iff.2 isBlock, Outcome.ok_bind] at report
  dsimp only at report
  rw [agrees.numPorts_eq isBlock, Outcome.ok_bind] at report
  have within := (Op.portKind?_inside known).2
  obtain ⟨passed, gives, single, takes⟩ := (agrees.empty_variantReport_iff has).1
    (empty_forEach_iff.1 report variant (List.mem_range.2 (by omega)))
  have all : controlEdgesAt program (block.outputPort variant) = program.graph.edgesAt (block.outputPort variant) := by
    rw [controlEdgesAt, List.filter_eq_self]
    intro edge leaves
    simp [(controlled edge leaves).1]
  rw [all] at single takes
  obtain ⟨edge, only⟩ := List.length_eq_one_iff.1 single
  rw [only] at controlled takes
  have target := (controlled edge (List.mem_singleton_self edge)).2
  obtain ⟨op, row, found, row_eq⟩ := agrees.exists_row accepted isRegion target
  have equal := takes edge (List.mem_singleton_self edge) op found row row_eq
  refine ⟨edge, passed, ?_, ?_, gives, op, agrees.op_eq_ok_iff.2 found, equal ▸ row_eq⟩
  · rw [agrees.portEdges_eq has, only]
  · exact agrees.parent?_eq_ok_some_iff.2 target

/-- Every child of the region is on track with what it takes. -/
theorem onTrack_of_child {node : Node} (isChild : node ∈ kids region) {op : Op} {row : Row}
    (found : program.ops.get? node = some op) (takes : blockInputs? op = some row) :
    program.OnTrack region outputs node row := by
  have child := agrees.parent?_eq_ok_some_iff.2 isChild
  cases op with
  | block taken sumRows otherOutputs own =>
    cases takes
    exact .block child (agrees.op_eq_ok_iff.2 found) fun variant inside =>
      agrees.exists_leads accepted isRegion isChild found inside
  | exit given =>
    cases takes
    obtain ⟨-, -, -, -, ends, -⟩ := agrees.controlReport_of_accepted accepted isRegion
    obtain rfl := ends node isChild row found
    exact .exit child (agrees.op_eq_ok_iff.2 found) (agrees.numPorts_eq found .outgoing)
  | _ => cases takes

/-- The node that a variant leads to is on track again. -/
theorem onTrack_of_leads {block : Node} {sumRows : List Row} {otherOutputs : Row} {variant : Nat} {edge : Edge}
    {passed : Row} (leads : program.Leads region block sumRows otherOutputs variant edge passed) :
    program.OnTrack region outputs edge.target.node passed := by
  obtain ⟨op, found, takes⟩ := leads.takes
  exact agrees.onTrack_of_child accepted isRegion (agrees.parent?_eq_ok_some_iff.1 leads.child)
    (agrees.op_eq_ok_iff.1 found) takes

end

end AgreesOn

/-! ### Walks -/

variable {program : Program} {region first : Node} {inputs outputs : Row}

theorem inside_of_successorInput? {sumRows : List Row} {otherOutputs passed : Row} {variant : Nat}
    (gives : Op.successorInput? sumRows otherOutputs variant = some passed) : variant < sumRows.length := by
  obtain ⟨row, found, -⟩ := Option.map_eq_some_iff.1 gives
  rw [itemAt?_natCast] at found
  exact (List.getElem?_eq_some_iff.1 found).1

/-- A step from a place on track follows the only edge there is. -/
theorem OnTrack.step {block : Node} {row held otherOutputs passed : Row} {sumRows : List Row}
    {delta : Option ExtensionSet} {variant : Nat} {edges : List Edge} {edge : Edge}
    (onTrack : program.OnTrack region outputs block row)
    (isBlock : program.op block = .ok (.block held sumRows otherOutputs delta))
    (gives : Op.successorInput? sumRows otherOutputs variant = some passed)
    (asked : program.portEdges (block.outputPort variant) = .ok edges) (leaves : edge ∈ edges) :
    program.Leads region block sumRows otherOutputs variant edge passed := by
  cases onTrack with
  | exit _ isExit _ =>
    rw [isBlock] at isExit
    cases isExit
  | block _ same leads =>
    rw [isBlock, Except.ok.injEq, Op.block.injEq] at same
    obtain ⟨rfl, rfl, rfl, rfl⟩ := same
    obtain ⟨next, values, step⟩ := leads variant (inside_of_successorInput? gives)
    have only := step.single
    rw [asked, Except.ok.injEq] at only
    rw [only, List.mem_singleton] at leaves
    have same := step.gives
    rw [gives, Option.some.injEq] at same
    rw [leaves, same]
    exact step

/-- A walk that can be continued from every place on track gets as far as there are variants. -/
theorem exists_walk (onTrack : ∀ taken node row, program.Walk first inputs taken node row →
      program.OnTrack region outputs node row)
    {taken : List Nat} {node : Node} {row : Row} (walk : program.Walk first inputs taken node row)
    (variants : List Nat) : ∃ further left last values, variants = further ++ left ∧
      program.Walk first inputs (taken ++ further) last values ∧ program.Stops last left := by
  induction variants generalizing taken node row with
  | nil => exact ⟨[], [], node, row, rfl, by rwa [List.append_nil], .done node⟩
  | cons variant rest ih =>
    cases onTrack taken node row walk with
    | exit _ isExit _ => exact ⟨[], variant :: rest, node, _, rfl, by rwa [List.append_nil], .exit isExit _⟩
    | @block _ otherOutputs sumRows delta _ isBlock leads =>
      by_cases inside : variant < sumRows.length
      · obtain ⟨edge, passed, step⟩ := leads variant inside
        have longer := walk.follow isBlock step.gives step.single (List.mem_singleton_self edge)
        obtain ⟨further, left, last, values, split, reached, stops⟩ := ih longer
        refine ⟨variant :: further, left, last, values, ?_, ?_, stops⟩
        · rw [split, List.cons_append]
        · rwa [List.append_assoc, List.singleton_append] at reached
      · exact ⟨[], variant :: rest, node, _, rfl, by rwa [List.append_nil],
          .noVariant isBlock (Nat.not_lt.1 inside) rest⟩

/-- Walks with the same variants end at the same place. -/
theorem Walk.determined (onTrack : ∀ taken node row, program.Walk first inputs taken node row →
      program.OnTrack region outputs node row)
    {taken : List Nat} {node other : Node} {row values : Row} (walk : program.Walk first inputs taken node row)
    (again : program.Walk first inputs taken other values) : node = other ∧ row = values := by
  induction walk generalizing other values with
  | here =>
    generalize same : ([] : List Nat) = none at again
    cases again with
    | here => exact ⟨rfl, rfl⟩
    | follow => simp at same
  | @follow taken block row held otherOutputs passed sumRows delta variant edges edge before isBlock gives asked leaves
      ih =>
    generalize same : taken ++ [variant] = whole at again
    cases again with
    | here => simp at same
    | @follow _ second _ _ _ _ _ _ _ _ further beforeAgain isSecond givesAgain askedAgain leavesAgain =>
      obtain ⟨rfl, lasts⟩ := List.append_inj' same rfl
      obtain rfl := (List.cons.inj lasts).1
      obtain ⟨rfl, rfl⟩ := ih beforeAgain
      rw [isBlock, Except.ok.injEq, Op.block.injEq] at isSecond
      obtain ⟨-, rfl, rfl, -⟩ := isSecond
      have here := onTrack _ _ _ before
      have step := here.step isBlock gives asked leaves
      have stepAgain := here.step isBlock givesAgain askedAgain leavesAgain
      have edges := step.single.symm.trans stepAgain.single
      rw [Except.ok.injEq, List.cons.injEq] at edges
      exact ⟨congrArg (fun edge : Edge => edge.target.node) edges.1,
        Option.some.inj (gives.symm.trans givesAgain)⟩

/-- Control flow in an accepted program never gets stuck, and passes values of the declared types. -/
theorem control_never_stuck (reachable : Reachable program) {registry : Registry}
    (accepted : program.validate registry false = .ok []) {delta : Option ExtensionSet}
    (isRegion : program.op region = .ok (.cfg inputs outputs delta)) :
    ∃ first rest, program.children region = .ok (first :: rest) ∧ program.NeverStuck region first inputs outputs := by
  have agrees : program.AgreesOn program.hierarchy.children := reachable.consistent
  rw [agrees.op_eq_ok_iff] at isRegion
  obtain ⟨first, rest, listed, ⟨sumRows, otherOutputs, own, found⟩, -⟩ :=
    agrees.controlReport_of_accepted accepted isRegion
  have isChild : first ∈ program.hierarchy.children region := by simp [listed]
  -- by induction on the walk: the entry is on track, and every step leads to a place on track
  have onTrack : ∀ taken node row, program.Walk first inputs taken node row →
      program.OnTrack region outputs node row := by
    intro taken node row walk
    induction walk with
    | here => exact agrees.onTrack_of_child accepted isRegion isChild found rfl
    | follow _ isBlock gives asked leaves ih =>
      exact agrees.onTrack_of_leads accepted isRegion (ih.step isBlock gives asked leaves)
  refine ⟨first, rest, ?_, ⟨sumRows, otherOutputs, own, agrees.op_eq_ok_iff.2 found⟩, onTrack, ?_, ?_⟩
  · rw [agrees.children_eq (agrees.contains_of_get? isRegion), listed]
  · exact fun taken node row other values walk again => walk.determined onTrack again
  · exact fun variants => exists_walk onTrack .here variants

/-- A region that passes a number around a single block, until the second variant leads to the exit. -/
def looping : Program :=
  (ofRoot (.cfg [Standard.usize] [Standard.usize] none)).edited [
    .addChild ⟨0, 0⟩ (.block [Standard.usize] [[], []] [Standard.usize] none),
    .addChild ⟨1, 0⟩ (.input [Standard.usize]),
    .addChild ⟨1, 0⟩ (.output [Standard.bool, Standard.usize]),
    .addChild ⟨1, 0⟩ (.tag [[], []] 1),
    .addChild ⟨0, 0⟩ (.exit [Standard.usize]),
    .connect ⟨4, 0⟩ 0 ⟨3, 0⟩ 0,
    .connect ⟨2, 0⟩ 0 ⟨3, 0⟩ 1,
    .connect ⟨1, 0⟩ 0 ⟨1, 0⟩ 0,
    .connect ⟨1, 0⟩ 1 ⟨5, 0⟩ 0]

theorem control_never_stuck_looping :
    looping.validate .prelude false = .ok [] ∧
      looping.op ⟨0, 0⟩ = .ok (.cfg [Standard.usize] [Standard.usize] none) ∧
      ∃ first rest, looping.children ⟨0, 0⟩ = .ok (first :: rest) ∧
        looping.NeverStuck ⟨0, 0⟩ first [Standard.usize] [Standard.usize] := by
  have reachable : Reachable looping := (Reachable.ofRoot _).edits _
  have accepted : looping.validate .prelude false = .ok [] := by decide +kernel
  have isRegion : looping.op ⟨0, 0⟩ = .ok (.cfg [Standard.usize] [Standard.usize] none) := by with_unfolding_all rfl
  exact ⟨accepted, isRegion, control_never_stuck reachable accepted isRegion⟩

end NestedFlow.Program
