import NestedFlow.Proofs.Program.Accepted
import NestedFlow.Proofs.Program.Mirror

/-! Whether a program is well formed does not depend on the identities of its nodes and edges. -/

set_option autoImplicit false

namespace NestedFlow.Program.Mirrors

open Hierarchy Report

open AgreesOn (Local Feeds exitAt controlEdgesAt)

variable {rename : Node → Node} {program copy : Program} {kids others : Node → List Node}
  (mirrors : Mirrors rename program copy) (agrees : program.AgreesOn kids) (same : copy.AgreesOn others)

include mirrors agrees same

/-! ### The whole program -/

theorem empty_rootReport_iff : copy.rootReport.Empty ↔ program.rootReport.Empty := by
  rw [same.empty_rootReport_iff, agrees.empty_rootReport_iff, mirrors.root]
  exact forall_congr' fun direction => mirrors.edgesOf_eq_nil_iff agrees same agrees.root_live direction

theorem empty_detachedReport_iff : copy.detachedReport.Empty ↔ program.detachedReport.Empty := by
  rw [same.empty_detachedReport_iff, agrees.empty_detachedReport_iff, mirrors.forall_live_iff]
  refine forall_congr' fun node => imp_congr_right fun live => ?_
  rw [mirrors.root, ne_eq, mirrors.rename_inj live agrees.root_live]
  apply imp_congr_right
  intro _
  constructor
  · rintro ⟨parent, isChild⟩
    obtain ⟨original, -, held⟩ := mirrors.exists_parent agrees same live isChild
    exact ⟨original, held⟩
  · rintro ⟨parent, isChild⟩
    exact ⟨rename parent, (mirrors.mem_kids_iff agrees same (agrees.kids_live parent node isChild).2 live).2 isChild⟩

/-! ### Edges -/

theorem local_iff {edge image : Edge} {type : Option PortType} (shape : image.shape id = edge.shape rename)
    (liveSource : program.graph.contains edge.source.node = true)
    (liveTarget : program.graph.contains edge.target.node = true) :
    Local copy others image type ↔ Local program kids edge type := by
  obtain ⟨kind, source, target⟩ := shape_eq_iff.1 shape
  rw [Local, Local, kind, source, target]
  simp only [Port.rename]
  have inner : ∀ parent, edge.source.node ∈ kids parent →
      (rename edge.target.node ∈ others (rename parent) ↔ edge.target.node ∈ kids parent) ∧
      (Above others (rename parent) (rename edge.target.node) ↔ Above kids parent edge.target.node) ∧
      copy.ops.get? (rename parent) = program.ops.get? parent := by
    intro parent isChild
    have live := (agrees.kids_live parent _ isChild).2
    exact ⟨mirrors.mem_kids_iff agrees same live liveTarget, mirrors.above_iff agrees same live liveTarget,
      mirrors.get?_rename agrees live⟩
  constructor
  · rintro ⟨parent, isChild, held⟩
    obtain ⟨original, rfl, inOriginal⟩ := mirrors.exists_parent agrees same liveSource isChild
    obtain ⟨sibling, below, op⟩ := inner original inOriginal
    simp only [sibling, below, op] at held
    exact ⟨original, inOriginal, held⟩
  · rintro ⟨parent, isChild, held⟩
    obtain ⟨sibling, below, op⟩ := inner parent isChild
    refine ⟨rename parent,
      (mirrors.mem_kids_iff agrees same (agrees.kids_live parent _ isChild).2 liveSource).2 isChild, ?_⟩
    simp only [sibling, below, op]
    exact held

theorem joined_iff {edge image : Edge} (shape : image.shape id = edge.shape rename)
    (liveSource : program.graph.contains edge.source.node = true)
    (liveTarget : program.graph.contains edge.target.node = true) :
    AgreesOn.Joined copy others image ↔ AgreesOn.Joined program kids edge := by
  obtain ⟨kind, source, target⟩ := shape_eq_iff.1 shape
  rw [AgreesOn.Joined, AgreesOn.Joined]
  simp only [mirrors.local_iff agrees same shape liveSource liveTarget, kind, source, target, Port.rename,
    mirrors.get?_rename agrees liveSource, mirrors.get?_rename agrees liveTarget]

theorem empty_edgesReport_iff {node : Node} (live : program.graph.contains node = true) :
    (copy.edgesReport (rename node)).Empty ↔ (program.edgesReport node).Empty := by
  rw [same.empty_edgesReport_iff (mirrors.live_rename live), agrees.empty_edgesReport_iff live]
  apply forall_images_iff (mirrors.shapes_edgesOf agrees same live)
  intro edge mem image shape
  obtain ⟨link, found, -, isEdge⟩ := agrees.graph.mem_edgesOf.1 mem
  apply mirrors.joined_iff agrees same shape
  · rw [isEdge]
    exact agrees.graph.contains_end found .outgoing
  · rw [isEdge]
    exact agrees.graph.contains_end found .incoming

theorem empty_linksReport_iff {node : Node} (live : program.graph.contains node = true) :
    (copy.linksReport (rename node)).Empty ↔ (program.linksReport node).Empty := by
  obtain ⟨op, found⟩ := agrees.get?_of_contains live
  rw [same.empty_linksReport_iff (mirrors.ops node op found), agrees.empty_linksReport_iff found, mirrors.root, ne_eq,
    mirrors.rename_inj live agrees.root_live]
  simp only [mirrors.length_idsAt agrees same live]

/-! ### Single nodes -/

theorem empty_parentReport_iff {node : Node} {op : Op} (live : program.graph.contains node = true) :
    (copy.parentReport (rename node) op).Empty ↔ (program.parentReport node op).Empty := by
  rw [same.empty_parentReport_iff (mirrors.live_rename live), agrees.empty_parentReport_iff live]
  constructor
  · intro each parent container isChild found
    have liveParent := (agrees.kids_live parent node isChild).2
    exact each (rename parent) container ((mirrors.mem_kids_iff agrees same liveParent live).2 isChild)
      (mirrors.ops parent container found)
  · intro each parent container isChild found
    obtain ⟨original, rfl, held⟩ := mirrors.exists_parent agrees same live isChild
    rw [mirrors.get?_rename agrees (agrees.kids_live original node held).2] at found
    exact each original container held found

/-- Reports that only look at the operation of a node agree if they agree for every operation. -/
theorem empty_op_bind_iff {node : Node} (live : program.graph.contains node = true) {next image : Op → Report}
    (each : ∀ op, (image op).Empty ↔ (next op).Empty) :
    Report.Empty (copy.op (rename node) >>= image) ↔ Report.Empty (program.op node >>= next) := by
  obtain ⟨op, found⟩ := agrees.get?_of_contains live
  rw [mirrors.op_eq agrees same live, agrees.op_eq_ok_iff.2 found]
  exact each op

theorem empty_firstChildReport_iff {node child : Node} {op : Op} (live : program.graph.contains child = true) :
    (copy.firstChildReport (rename node) op (rename child)).Empty ↔ (program.firstChildReport node op child).Empty := by
  apply mirrors.empty_op_bind_iff agrees same live
  exact fun found => empty_ite_iff.trans empty_ite_iff.symm

theorem empty_secondChildReport_iff {node : Node} {child : Option Node} {op : Op}
    (live : ∀ second, child = some second → program.graph.contains second = true) :
    (copy.secondChildReport (rename node) op (child.map rename)).Empty ↔
      (program.secondChildReport node op child).Empty := by
  cases child with
  | none => exact empty_ite_iff.trans empty_ite_iff.symm
  | some second =>
    apply mirrors.empty_op_bind_iff agrees same (live second rfl)
    exact fun found => empty_ite_iff.trans empty_ite_iff.symm

theorem empty_boundaryReport_iff {op : Op} {children : List Node}
    (live : ∀ child ∈ children, program.graph.contains child = true) :
    (copy.boundaryReport op (children.map rename)).Empty ↔ (program.boundaryReport op children).Empty := by
  rw [boundaryReport, boundaryReport]
  cases op.inner? with
  | none => exact Iff.rfl
  | some inner =>
    simp only [← List.map_take, ← List.map_drop, empty_also_iff, empty_forEach_iff, List.forall_mem_map]
    refine and_congr (and_congr ?_ ?_) ?_
    · refine forall_congr' fun child => imp_congr_right fun mem => ?_
      apply mirrors.empty_op_bind_iff agrees same (live child (List.mem_of_mem_take mem))
      intro found
      cases found <;> first | exact empty_ite_iff.trans empty_ite_iff.symm | exact Iff.rfl
    · refine forall_congr' fun child => imp_congr_right fun mem => ?_
      apply mirrors.empty_op_bind_iff agrees same (live child (List.mem_of_mem_drop (List.mem_of_mem_take mem)))
      intro found
      cases found <;> first | exact empty_ite_iff.trans empty_ite_iff.symm | exact Iff.rfl
    · refine forall_congr' fun child => imp_congr_right fun mem => ?_
      apply mirrors.empty_op_bind_iff agrees same (live child (List.mem_of_mem_drop mem))
      intro found
      cases found <;>
        first | exact iff_of_false (not_empty_single _ _) (not_empty_single _ _) | exact Iff.rfl

theorem feeds_iff {region source target : Node} (live : program.graph.contains region = true)
    (liveSource : program.graph.contains source = true) (liveTarget : program.graph.contains target = true) :
    Feeds copy others (rename region) (rename source) (rename target) ↔ Feeds program kids region source target := by
  rw [Feeds, Feeds, mirrors.mem_kids_iff agrees same live liveSource, mirrors.mem_kids_iff agrees same live liveTarget]
  refine and_congr_right fun _ => and_congr_right fun _ => ?_
  apply exists_images_iff (mirrors.shapes_edgesOf agrees same liveSource)
  intro edge mem image shape
  obtain ⟨link, found, -, isEdge⟩ := agrees.graph.mem_edgesOf.1 mem
  have liveEnd : program.graph.contains edge.target.node = true := by
    rw [isEdge]
    exact agrees.graph.contains_end found .incoming
  obtain ⟨kind, -, isTarget⟩ := shape_eq_iff.1 shape
  rw [kind, isTarget, Port.rename, mirrors.rename_inj liveEnd liveTarget]

theorem empty_acyclicReport_iff {region : Node} {op : Op} (live : program.graph.contains region = true) :
    (copy.acyclicReport (rename region) op).Empty ↔ (program.acyclicReport region op).Empty := by
  rw [same.empty_acyclicReport_iff (mirrors.live_rename live), agrees.empty_acyclicReport_iff live]
  have ends : ∀ source target, Feeds program kids region source target →
      program.graph.contains source = true ∧ program.graph.contains target = true :=
    fun source target feeds => ⟨(agrees.kids_live _ _ feeds.1).1, (agrees.kids_live _ _ feeds.2.1).1⟩
  have path_iff : ∀ {node}, program.graph.contains node = true →
      (Relation.TransGen (Feeds copy others (rename region)) (rename node) (rename node) ↔
        Relation.TransGen (Feeds program kids region) node node) := by
    intro node liveNode
    apply transGen_rename_iff mirrors.injective ends _ _ liveNode liveNode
    · exact fun _ _ liveSource liveTarget => mirrors.feeds_iff agrees same live liveSource liveTarget
    · exact fun _ target _ feeds => (mirrors.live_iff target).1 (same.kids_live _ _ feeds.2.1).1
  apply not_congr
  -- a node on a cycle of the copy is a child of the region, so it is the image of one
  constructor
  · rintro ⟨node, cycle⟩
    obtain ⟨next, feeds, -⟩ := Relation.TransGen.head'_iff.1 cycle
    obtain ⟨original, alive, rfl⟩ := (mirrors.live_iff node).1 (same.kids_live _ _ feeds.1).1
    exact ⟨original, (path_iff alive).1 cycle⟩
  · rintro ⟨node, cycle⟩
    obtain ⟨next, feeds, -⟩ := Relation.TransGen.head'_iff.1 cycle
    exact ⟨rename node, (path_iff (ends _ _ feeds).1).2 cycle⟩

/-! ### Conditionals and control flow -/

theorem empty_casesReport_iff {node : Node} {sumRows : List Row} {otherInputs outputs : Row} {children : List Node}
    (live : ∀ child ∈ children, program.graph.contains child = true) :
    (copy.casesReport (rename node) sumRows otherInputs outputs (children.map rename)).Empty ↔
      (program.casesReport node sumRows otherInputs outputs children).Empty := by
  rw [casesReport, casesReport, empty_also_iff, empty_also_iff, empty_ite_iff, empty_ite_iff, List.length_map,
    empty_forEach_iff, empty_forEach_iff, ← List.map_take, List.zipIdx_map, List.forall_mem_map]
  apply and_congr_right
  intro _
  refine forall_congr' fun (child, index) => imp_congr_right fun mem => ?_
  have isChild : child ∈ children := List.mem_of_mem_take (List.fst_mem_of_mem_zipIdx mem)
  apply mirrors.empty_op_bind_iff agrees same (live child isChild)
  intro found
  cases found with
  | branch caseInputs caseOutputs delta =>
    dsimp only [id_eq]
    cases Op.caseSignature? sumRows otherInputs outputs index with
    | none => exact Iff.rfl
    | some expected => exact empty_ite_iff.trans empty_ite_iff.symm
  | _ => exact Iff.rfl

omit same in
theorem exitAt_rename {node : Node} (live : program.graph.contains node = true) :
    exitAt copy (rename node) = (exitAt program node).map (Prod.map rename id) := by
  rw [exitAt, exitAt, mirrors.get?_rename agrees live]
  split <;> rfl

omit agrees same in
theorem shapes_controlEdgesAt {block : Node} (live : program.graph.contains block = true) (index : Nat) :
    (controlEdgesAt copy ((rename block).outputPort index)).map (Edge.shape id) =
      (controlEdgesAt program (block.outputPort index)).map (Edge.shape rename) := by
  have byShape : ∀ (name : Node → Node) (edges : List Edge),
      (edges.filter fun edge => edge.kind == .controlFlow).map (Edge.shape name) =
        (edges.map (Edge.shape name)).filter fun shape => shape.1 == .controlFlow := by
    intro name edges
    rw [List.filter_map]
    rfl
  rw [controlEdgesAt, controlEdgesAt, byShape, byShape, mirrors.outgoing block live]

theorem empty_blockReport_iff {child : Node} (live : program.graph.contains child = true) :
    (copy.blockReport (rename child)).Empty ↔ (program.blockReport child).Empty := by
  obtain ⟨op, found⟩ := agrees.get?_of_contains live
  have image := mirrors.ops child op found
  rw [Report.Empty, Report.Empty, blockReport, blockReport, same.op_eq_ok_iff.2 image, agrees.op_eq_ok_iff.2 found,
    Outcome.ok_bind, Outcome.ok_bind]
  cases op with
  | block inputs sumRows otherOutputs delta =>
    dsimp only
    rw [same.numPorts_eq image, agrees.numPorts_eq found, Outcome.ok_bind, Outcome.ok_bind, ← Report.Empty,
      ← Report.Empty, empty_forEach_iff, empty_forEach_iff]
    refine forall_congr' fun index => imp_congr_right fun mem => ?_
    rw [List.mem_range, Nat.lt_min] at mem
    have has : program.graph.HasPort (child.outputPort index) := agrees.hasPort_of_lt found mem.2
    have hasImage : copy.graph.HasPort ((rename child).outputPort index) := same.hasPort_of_lt image mem.2
    have shapes := mirrors.shapes_controlEdgesAt live index
    -- an output is judged by the number of its control edges, and by the operations where they end
    rw [same.empty_variantReport_iff hasImage, agrees.empty_variantReport_iff has]
    refine exists_congr fun expected => and_congr_right fun _ => and_congr ?_ ?_
    · have lengths := congrArg List.length shapes
      rw [List.length_map, List.length_map] at lengths
      rw [lengths]
    · apply forall_images_iff shapes
      intro edge isControl image shape
      obtain ⟨link, recorded, -, isEdge⟩ := agrees.graph.mem_edgesAt.1 (List.mem_of_mem_filter isControl)
      have liveEnd : program.graph.contains edge.target.node = true := by
        rw [isEdge]
        exact agrees.graph.contains_end recorded .incoming
      rw [(shape_eq_iff.1 shape).2.2, Port.rename, mirrors.get?_rename agrees liveEnd]
  | _ => exact Iff.rfl

theorem empty_controlReport_iff {node : Node} {inputs outputs : Row} {children : List Node}
    (live : ∀ child ∈ children, program.graph.contains child = true) :
    (copy.controlReport (rename node) inputs outputs (children.map rename)).Empty ↔
      (program.controlReport node inputs outputs children).Empty := by
  have liveImages : ∀ child ∈ children.map rename, copy.graph.contains child = true := by
    rw [List.forall_mem_map]
    exact fun child mem => mirrors.live_rename (live child mem)
  have exits : (children.map rename).flatMap (exitAt copy) =
      (children.flatMap (exitAt program)).map (Prod.map rename id) := by
    rw [List.flatMap_map, List.map_flatMap]
    exact List.flatMap_congr fun child mem => mirrors.exitAt_rename agrees (live child mem)
  rw [same.empty_controlReport_iff liveImages, agrees.empty_controlReport_iff live, exits, ne_eq, List.map_eq_nil_iff,
    List.forall_mem_map, List.forall_mem_map, ← List.map_take, List.forall_mem_map]
  refine and_congr ?_ (and_congr_right fun _ => and_congr_right fun _ => ?_)
  · refine forall_congr' fun child => imp_congr_right fun mem => ?_
    apply mirrors.empty_op_bind_iff agrees same (live child (List.mem_of_mem_take mem))
    intro found
    cases found <;> first | exact empty_ite_iff.trans empty_ite_iff.symm | exact Iff.rfl
  · exact forall_congr' fun child => imp_congr_right fun mem => mirrors.empty_blockReport_iff agrees same (live child mem)

theorem empty_kindReport_iff {node : Node} {op : Op} {children : List Node}
    (live : ∀ child ∈ children, program.graph.contains child = true) :
    (copy.kindReport (rename node) op (children.map rename)).Empty ↔ (program.kindReport node op children).Empty := by
  cases op with
  | conditional sumRows otherInputs outputs delta => exact mirrors.empty_casesReport_iff agrees same live
  | cfg inputs outputs delta => exact mirrors.empty_controlReport_iff agrees same live
  | _ => exact Iff.rfl

/-! ### Nodes with their children -/

theorem empty_childrenReport_iff {node : Node} {op : Op} (live : program.graph.contains node = true) :
    (copy.childrenReport (rename node) op).Empty ↔ (program.childrenReport node op).Empty := by
  rw [same.empty_childrenReport_iff (mirrors.live_rename live), agrees.empty_childrenReport_iff live,
    mirrors.kids_rename agrees same live, List.map_eq_nil_iff]
  apply and_congr_right
  intro _
  have alive : ∀ child ∈ kids node, program.graph.contains child = true :=
    fun child isChild => (agrees.kids_live node child isChild).1
  cases children : kids node with
  | nil => simp
  | cons first rest =>
    rw [children] at alive
    have one : ∀ {claim : Node → List Node → Prop} {head : Node} {tail : List Node},
        (∀ first rest, head :: tail = first :: rest → claim first rest) ↔ claim head tail := by
      intro claim head tail
      exact ⟨fun each => each head tail rfl, fun held first rest same => by cases same; exact held⟩
    rw [List.map_cons, one, one]
    refine imp_congr_right fun _ => and_congr ?_ (and_congr ?_ (and_congr ?_ (and_congr ?_ ?_)))
    · exact mirrors.empty_firstChildReport_iff agrees same (alive first List.mem_cons_self)
    · rw [List.head?_map]
      refine mirrors.empty_secondChildReport_iff agrees same fun second isSecond => ?_
      exact alive second (List.mem_cons_of_mem first (List.mem_of_head? isSecond))
    · exact imp_congr_right fun _ => mirrors.empty_boundaryReport_iff agrees same alive
    · exact imp_congr_right fun _ => mirrors.empty_acyclicReport_iff agrees same live
    · exact mirrors.empty_kindReport_iff agrees same alive

theorem scopeOf_eq {node : Node} (live : program.graph.contains node = true) :
    copy.scopeOf (rename node) = program.scopeOf node := by
  have nearest : ∀ nodes : List Node, (∀ node ∈ nodes, program.graph.contains node = true) →
      scopeOf.nearest copy (nodes.map rename) = scopeOf.nearest program nodes := by
    intro nodes alive
    induction nodes with
    | nil => rfl
    | cons node rest ih =>
      rw [List.map_cons, scopeOf.nearest, scopeOf.nearest, mirrors.op_eq agrees same (alive node List.mem_cons_self),
        ih fun other mem => alive other (List.mem_cons_of_mem node mem)]
  rw [scopeOf, scopeOf, mirrors.ancestors_rename agrees same live]
  apply nearest
  intro above isAbove
  obtain ⟨child, holds, -⟩ := Relation.TransGen.head'_iff.1 (agrees.stores.mem_ancestors.1 isAbove)
  exact (agrees.kids_live above child holds).2

theorem empty_nodeReport_iff {registry : Registry} {node : Node} (live : program.graph.contains node = true) :
    (copy.nodeReport registry (rename node)).Empty ↔ (program.nodeReport registry node).Empty := by
  obtain ⟨op, found⟩ := agrees.get?_of_contains live
  rw [same.empty_nodeReport_iff (mirrors.ops node op found), agrees.empty_nodeReport_iff found,
    AgreesOn.empty_typeReport_iff, AgreesOn.empty_typeReport_iff, mirrors.scopeOf_eq agrees same live,
    mirrors.empty_parentReport_iff agrees same live, mirrors.empty_childrenReport_iff agrees same live]

/-! ### Requirements -/

theorem contribution_eq {required image : Table Node ExtensionSet} {child : Node}
    (live : program.graph.contains child = true) (known : image.getD (rename child) ∅ = required.getD child ∅) :
    copy.contribution image (rename child) = program.contribution required child := by
  rw [contribution, contribution, mirrors.op_eq agrees same live, known]

/-- What was found for the copy is what was found for the program. -/
structure SameFound (rename : Node → Node) (program : Program) (found image : Requirements) : Prop where
  required : ∀ node, program.graph.contains node = true →
    image.required.getD (rename node) ∅ = found.required.getD node ∅
  missing : image.missing = [] ↔ found.missing = []

theorem exists_contributions {required image : Table Node ExtensionSet} {children : List Node}
    (live : ∀ child ∈ children, program.graph.contains child = true)
    (known : ∀ node, program.graph.contains node = true → image.getD (rename node) ∅ = required.getD node ∅) :
    ∃ parts, children.mapM (program.contribution required) = .ok parts ∧
      (children.map rename).mapM (copy.contribution image) = .ok parts := by
  have answered : ∀ child ∈ children, ∃ part, program.contribution required child = .ok part := by
    intro child mem
    obtain ⟨op, found⟩ := agrees.get?_of_contains (live child mem)
    rw [contribution, agrees.op_eq_ok_iff.2 found, Outcome.ok_bind]
    split
    · exact ⟨_, rfl⟩
    · split <;> exact ⟨_, rfl⟩
  obtain ⟨parts, asked⟩ := Outcome.exists_mapM answered
  refine ⟨parts, asked, ?_⟩
  rw [Outcome.mapM_eq_ok_iff] at asked ⊢
  rw [← asked, List.map_map]
  apply List.map_congr_left
  intro child mem
  exact mirrors.contribution_eq agrees same (live child mem) (known child (live child mem))

theorem requireNode {found image : Requirements} (held : SameFound rename program found image) {node : Node}
    (live : program.graph.contains node = true) : ∃ next nextImage, program.requireNode found node = .ok next ∧
      copy.requireNode image (rename node) = .ok nextImage ∧ SameFound rename program next nextImage := by
  obtain ⟨op, isOp⟩ := agrees.get?_of_contains live
  rw [Program.requireNode, Program.requireNode, mirrors.op_eq agrees same live, agrees.op_eq_ok_iff.2 isOp,
    Outcome.ok_bind, Outcome.ok_bind]
  cases op.isContainer with
  | false => exact ⟨found, image, rfl, rfl, held⟩
  | true =>
    obtain ⟨parts, asked, imageAsked⟩ := mirrors.exists_contributions agrees same
      (fun child isChild => (agrees.kids_live node child isChild).1) held.required
    have required : ∀ other, program.graph.contains other = true →
        (image.required.insert (rename node) (ExtensionSet.unionAll parts)).getD (rename other) ∅ =
          (found.required.insert node (ExtensionSet.unionAll parts)).getD other ∅ := by
      intro other liveOther
      simp only [Table.getD_eq, Table.get?_insert_eq, mirrors.rename_inj liveOther live]
      split
      · rfl
      · exact held.required other liveOther
    simp only [Bool.not_true, Bool.false_eq_true, if_false, agrees.children_eq live,
      same.children_eq (mirrors.live_rename live), mirrors.kids_rename agrees same live, Outcome.ok_bind, asked,
      imageAsked]
    -- both have the same parts, so they are complained about together
    cases op.delta? with
    | none =>
      dsimp only
      split
      · exact ⟨_, _, rfl, rfl, required, held.missing⟩
      · exact ⟨_, _, rfl, rfl, required, held.missing⟩
    | some declared =>
      dsimp only
      split
      · exact ⟨_, _, rfl, rfl, required, held.missing⟩
      · exact ⟨_, _, rfl, rfl, required, by simp⟩

theorem empty_requirementsReport_iff : copy.requirementsReport.Empty ↔ program.requirementsReport.Empty := by
  have folded : ∀ (nodes : List Node) {found image : Requirements}, SameFound rename program found image →
      (∀ node ∈ nodes, program.graph.contains node = true) →
      ∃ last lastImage, nodes.foldlM program.requireNode found = .ok last ∧
        (nodes.map rename).foldlM copy.requireNode image = .ok lastImage ∧ SameFound rename program last lastImage := by
    intro nodes
    induction nodes with
    | nil => exact fun {found image} held _ => ⟨found, image, rfl, rfl, held⟩
    | cons node rest ih =>
      intro found image held live
      obtain ⟨next, nextImage, step, imageStep, kept⟩ := mirrors.requireNode agrees same held (live node List.mem_cons_self)
      obtain ⟨last, lastImage, further, imageFurther, final⟩ :=
        ih kept fun other mem => live other (List.mem_cons_of_mem node mem)
      refine ⟨last, lastImage, ?_, ?_, final⟩
      · rw [List.foldlM_cons, step, Outcome.ok_bind, further]
      · rw [List.map_cons, List.foldlM_cons, imageStep, Outcome.ok_bind, imageFurther]
  have start : SameFound rename program .empty .empty := ⟨fun _ _ => rfl, Iff.rfl⟩
  obtain ⟨found, image, asked, imageAsked, result⟩ :=
    folded (program.hierarchy.descendants program.root).reverse start fun node mem =>
      agrees.contains_of_below agrees.root_live (agrees.stores.mem_descendants.1 (List.mem_reverse.1 mem))
  have isFound : program.requirements = .ok found := by
    rw [requirements, agrees.descendants_eq agrees.root_live, Outcome.ok_bind, asked]
  have isImage : copy.requirements = .ok image := by
    rw [requirements, same.descendants_eq same.root_live, Outcome.ok_bind, mirrors.root,
      mirrors.descendants_rename agrees same agrees.root_live, ← List.map_reverse, imageAsked]
  rw [Report.Empty, Report.Empty, requirementsReport, requirementsReport, isFound, isImage]
  simp only [Outcome.ok_bind, Outcome.pure_eq, Except.ok.injEq, Requirements.errors, List.map_eq_nil_iff, result.missing]

/-! ### Validation -/

/-- A program that mirrors another one is well formed exactly if the other one is. -/
theorem empty_validate_iff (registry : Registry) (requirements : Bool) :
    (copy.validate registry requirements).Empty ↔ (program.validate registry requirements).Empty := by
  rw [same.empty_validate_iff, agrees.empty_validate_iff, mirrors.empty_rootReport_iff agrees same,
    mirrors.empty_detachedReport_iff agrees same, mirrors.empty_requirementsReport_iff agrees same,
    mirrors.forall_live_iff, mirrors.forall_live_iff]
  refine and_congr_right fun _ => and_congr_right fun _ => and_congr ?_ (and_congr_left fun _ => ?_)
  · exact forall_congr' fun node => imp_congr_right fun live => mirrors.empty_nodeReport_iff agrees same live
  · exact forall_congr' fun node => imp_congr_right fun live =>
      and_congr (mirrors.empty_edgesReport_iff agrees same live) (mirrors.empty_linksReport_iff agrees same live)

end NestedFlow.Program.Mirrors
