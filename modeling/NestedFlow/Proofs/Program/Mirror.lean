import NestedFlow.Proofs.Program.Encoding

/-! Programs that are the same up to the identities of their nodes and edges. -/

set_option autoImplicit false

namespace NestedFlow

def Port.rename (rename : Node → Node) (port : Port) : Port := ⟨rename port.node, port.direction, port.offset⟩

/-- What an edge is without its identity, between renamed nodes. -/
def Edge.shape (rename : Node → Node) (edge : Edge) : EdgeKind × Port × Port :=
  (edge.kind, edge.source.rename rename, edge.target.rename rename)

namespace Program

open Hierarchy

/-- The second program has the nodes of the first one under other names, with the same operations, children and edges.
The edges of an output have the same order. -/
structure Mirrors (rename : Node → Node) (program copy : Program) : Prop where
  injective : ∀ first second, program.graph.contains first = true → program.graph.contains second = true →
    rename first = rename second → first = second
  live_iff : ∀ node, copy.graph.contains node = true ↔
    ∃ original, program.graph.contains original = true ∧ node = rename original
  root : copy.root = rename program.root
  ops : ∀ node op, program.ops.get? node = some op → copy.ops.get? (rename node) = some op
  children : ∀ node, program.graph.contains node = true →
    copy.hierarchy.children (rename node) = (program.hierarchy.children node).map rename
  outgoing : ∀ node, program.graph.contains node = true → ∀ offset,
    (copy.graph.edgesAt ((rename node).outputPort offset)).map (Edge.shape id) =
      (program.graph.edgesAt (node.outputPort offset)).map (Edge.shape rename)
  incoming : ∀ node, program.graph.contains node = true → ∀ offset,
    ((copy.graph.edgesAt ((rename node).inputPort offset)).map (Edge.shape id)).Perm
      ((program.graph.edgesAt (node.inputPort offset)).map (Edge.shape rename))

/-- Paths between renamed nodes are paths between the nodes. -/
theorem transGen_rename_iff {rename : Node → Node} {known : Node → Prop} {before after : Node → Node → Prop}
    (injective : ∀ first second, known first → known second → rename first = rename second → first = second)
    (ends : ∀ source target, before source target → known source ∧ known target)
    (step_iff : ∀ source target, known source → known target →
      (after (rename source) (rename target) ↔ before source target))
    (onto : ∀ source target, known source → after (rename source) target → ∃ original, known original ∧ target = rename original)
    {source target : Node} (knownSource : known source) (knownTarget : known target) :
    Relation.TransGen after (rename source) (rename target) ↔ Relation.TransGen before source target := by
  constructor
  · intro path
    -- a path from a renamed node stays among renamed nodes
    have reached : ∀ last, Relation.TransGen after (rename source) last →
        ∃ original, known original ∧ last = rename original ∧ Relation.TransGen before source original := by
      intro last path
      induction path with
      | single step =>
        obtain ⟨original, isKnown, rfl⟩ := onto _ _ knownSource step
        exact ⟨original, isKnown, rfl, .single ((step_iff _ _ knownSource isKnown).1 step)⟩
      | tail _ step ih =>
        obtain ⟨middle, knownMiddle, rfl, further⟩ := ih
        obtain ⟨original, isKnown, rfl⟩ := onto _ _ knownMiddle step
        exact ⟨original, isKnown, rfl, further.tail ((step_iff _ _ knownMiddle isKnown).1 step)⟩
    obtain ⟨original, isKnown, same, further⟩ := reached _ path
    rwa [injective target original knownTarget isKnown same]
  · intro path
    induction path with
    | single step => exact .single ((step_iff _ _ knownSource knownTarget).2 step)
    | @tail middle last _ step ih =>
      have knownMiddle := (ends _ _ step).1
      exact (ih knownMiddle).tail ((step_iff _ _ knownMiddle knownTarget).2 step)

namespace Mirrors

variable {rename : Node → Node} {program copy : Program} {kids others : Node → List Node}

section

variable (mirrors : Mirrors rename program copy) (agrees : program.AgreesOn kids) (same : copy.AgreesOn others)

include mirrors

theorem live_rename {node : Node} (live : program.graph.contains node = true) :
    copy.graph.contains (rename node) = true := (mirrors.live_iff _).2 ⟨node, live, rfl⟩

/-- What is asked of the nodes of the copy is asked of the renamed nodes. -/
theorem forall_live_iff {claim : Node → Prop} :
    (∀ node, copy.graph.contains node = true → claim node) ↔
      ∀ node, program.graph.contains node = true → claim (rename node) := by
  constructor
  · exact fun each node live => each _ (mirrors.live_rename live)
  · intro each node live
    obtain ⟨original, alive, rfl⟩ := (mirrors.live_iff node).1 live
    exact each original alive

theorem rename_inj {first second : Node} (liveFirst : program.graph.contains first = true)
    (liveSecond : program.graph.contains second = true) : rename first = rename second ↔ first = second :=
  ⟨mirrors.injective first second liveFirst liveSecond, fun same => congrArg rename same⟩

include agrees

/-! ### Operations and children -/

theorem op_eq {node : Node} (same : copy.AgreesOn others) (live : program.graph.contains node = true) :
    copy.op (rename node) = program.op node := by
  obtain ⟨op, found⟩ := agrees.get?_of_contains live
  rw [agrees.op_eq_ok_iff.2 found, same.op_eq_ok_iff.2 (mirrors.ops node op found)]

include same

theorem kids_rename {node : Node} (live : program.graph.contains node = true) :
    others (rename node) = (kids node).map rename := by
  rw [← same.stores.children_eq, ← agrees.stores.children_eq, mirrors.children node live]

theorem mem_kids_iff {parent child : Node} (liveParent : program.graph.contains parent = true)
    (liveChild : program.graph.contains child = true) :
    rename child ∈ others (rename parent) ↔ child ∈ kids parent := by
  rw [mirrors.kids_rename agrees same liveParent, List.mem_map]
  constructor
  · rintro ⟨other, isChild, named⟩
    rwa [← (mirrors.rename_inj (agrees.kids_live parent other isChild).1 liveChild).1 named]
  · exact fun isChild => ⟨child, isChild, rfl⟩

/-- A parent in the copy is a renamed parent. -/
theorem exists_parent {node parent : Node} (live : program.graph.contains node = true)
    (isChild : rename node ∈ others parent) : ∃ original, parent = rename original ∧ node ∈ kids original := by
  obtain ⟨original, alive, rfl⟩ := (mirrors.live_iff parent).1 (same.kids_live parent _ isChild).2
  exact ⟨original, rfl, (mirrors.mem_kids_iff agrees same alive live).1 isChild⟩

theorem parent?_rename {node : Node} (live : program.graph.contains node = true) :
    copy.hierarchy.parent? (rename node) = (program.hierarchy.parent? node).map rename := by
  cases above : program.hierarchy.parent? node with
  | none =>
    rw [Option.map_none, same.stores.parent?_eq_none_iff]
    intro parent isChild
    obtain ⟨original, -, held⟩ := mirrors.exists_parent agrees same live isChild
    exact (agrees.stores.parent?_eq_none_iff node).1 above original held
  | some parent =>
    have isChild := (agrees.stores.parent_iff node parent).1 above
    exact (same.stores.parent_iff _ _).2
      ((mirrors.mem_kids_iff agrees same (agrees.kids_live parent node isChild).2 live).2 isChild)

theorem above_iff {above below : Node} (liveAbove : program.graph.contains above = true)
    (liveBelow : program.graph.contains below = true) :
    Above others (rename above) (rename below) ↔ Above kids above below := by
  apply transGen_rename_iff mirrors.injective (fun parent child isChild => (agrees.kids_live parent child isChild).symm)
    (fun _ _ liveParent liveChild => mirrors.mem_kids_iff agrees same liveParent liveChild) _ liveAbove liveBelow
  intro parent child _ isChild
  exact (mirrors.live_iff child).1 (same.kids_live _ child isChild).1

theorem descendants_rename {node : Node} (live : program.graph.contains node = true) :
    copy.hierarchy.descendants (rename node) = (program.hierarchy.descendants node).map rename := by
  induction node using agrees.stores.founded_below.induction with
  | _ node ih =>
    rw [same.stores.descendants_eq, agrees.stores.descendants_eq, mirrors.kids_rename agrees same live,
      List.map_cons, List.flatMap_map, List.map_flatMap]
    congr 1
    exact List.flatMap_congr fun child isChild => ih child isChild (agrees.kids_live node child isChild).1

theorem ancestors_rename {node : Node} (live : program.graph.contains node = true) :
    copy.hierarchy.ancestors (rename node) = (program.hierarchy.ancestors node).map rename := by
  induction node using agrees.stores.grounded.induction with
  | _ node ih =>
    have renamed := mirrors.parent?_rename agrees same live
    cases above : program.hierarchy.parent? node with
    | none =>
      rw [above] at renamed
      rw [same.stores.ancestors_of_top renamed, agrees.stores.ancestors_of_top above]
      rfl
    | some parent =>
      rw [above] at renamed
      have isChild := (agrees.stores.parent_iff node parent).1 above
      rw [same.stores.ancestors_of_mem ((same.stores.parent_iff _ _).1 renamed), agrees.stores.ancestors_of_mem isChild,
        List.map_cons, ih parent isChild (agrees.kids_live parent node isChild).2]

/-! ### Edges -/

omit same in
theorem get?_rename {node : Node} (live : program.graph.contains node = true) :
    copy.ops.get? (rename node) = program.ops.get? node := by
  obtain ⟨op, found⟩ := agrees.get?_of_contains live
  rw [found, mirrors.ops node op found]

theorem length_portsOf {node : Node} (live : program.graph.contains node = true) (direction : Direction) :
    (copy.graph.portsOf (rename node) direction).length = (program.graph.portsOf node direction).length := by
  obtain ⟨op, found⟩ := agrees.get?_of_contains live
  rw [same.portTotals _ op (mirrors.ops node op found), agrees.portTotals node op found]

theorem length_idsAt {node : Node} (live : program.graph.contains node = true) (direction : Direction) (offset : Int) :
    (copy.graph.idsAt ⟨rename node, direction, offset⟩).length =
      (program.graph.idsAt ⟨node, direction, offset⟩).length := by
  rw [← same.graph.length_edgesAt, ← agrees.graph.length_edgesAt]
  cases direction with
  | incoming =>
    have lengths := (mirrors.incoming node live offset).length_eq
    rwa [List.length_map, List.length_map] at lengths
  | outgoing =>
    have lengths := congrArg List.length (mirrors.outgoing node live offset)
    rwa [List.length_map, List.length_map] at lengths

theorem edgesOf_eq_nil_iff {node : Node} (live : program.graph.contains node = true) (direction : Direction) :
    copy.graph.edgesOf (rename node) direction = [] ↔ program.graph.edgesOf node direction = [] := by
  rw [PortGraph.edgesOf_eq_nil_iff, PortGraph.edgesOf_eq_nil_iff]
  apply forall_congr'
  intro offset
  rw [← List.length_eq_zero_iff, ← List.length_eq_zero_iff, same.graph.length_edgesAt, agrees.graph.length_edgesAt,
    mirrors.length_idsAt agrees same live]

theorem shapes_edgesOf {node : Node} (live : program.graph.contains node = true) :
    (copy.graph.edgesOf (rename node) .outgoing).map (Edge.shape id) =
      (program.graph.edgesOf node .outgoing).map (Edge.shape rename) := by
  rw [PortGraph.edgesOf_eq, PortGraph.edgesOf_eq, mirrors.length_portsOf agrees same live, List.map_flatMap,
    List.map_flatMap]
  exact List.flatMap_congr fun offset _ => mirrors.outgoing node live offset

end

end Mirrors

theorem shape_eq_iff {rename : Node → Node} {edge image : Edge} : image.shape id = edge.shape rename ↔
    image.kind = edge.kind ∧ image.source = edge.source.rename rename ∧ image.target = edge.target.rename rename := by
  rw [Edge.shape, Edge.shape, Prod.mk.injEq, Prod.mk.injEq]
  rfl

/-- What is the same of an edge and of its image is the same of all edges and of all images. -/
theorem map_images_eq {α : Type} {rename : Node → Node} {part imagePart : Edge → α} : ∀ {edges images : List Edge},
    images.map (Edge.shape id) = edges.map (Edge.shape rename) →
    (∀ edge ∈ edges, ∀ image, image.shape id = edge.shape rename → imagePart image = part edge) →
    images.map imagePart = edges.map part
  | [], [], _, _ => rfl
  | [], _ :: _, shapes, _ => nomatch shapes
  | _ :: _, [], shapes, _ => nomatch shapes
  | edge :: edges, image :: images, shapes, each => by
    rw [List.map_cons, List.map_cons, List.cons.injEq] at shapes
    rw [List.map_cons, List.map_cons, each edge List.mem_cons_self image shapes.1,
      map_images_eq shapes.2 fun other mem => each other (List.mem_cons_of_mem edge mem)]

/-- What is said of an edge and of its image is said of all edges and of all images. -/
theorem forall_images_iff {rename : Node → Node} {claim imageClaim : Edge → Prop} {edges images : List Edge}
    (shapes : images.map (Edge.shape id) = edges.map (Edge.shape rename))
    (each : ∀ edge ∈ edges, ∀ image, image.shape id = edge.shape rename → (imageClaim image ↔ claim edge)) :
    (∀ image ∈ images, imageClaim image) ↔ ∀ edge ∈ edges, claim edge := by
  have same : images.map imageClaim = edges.map claim :=
    map_images_eq shapes fun edge mem image shape => propext (each edge mem image shape)
  have all : (∀ held ∈ images.map imageClaim, held) ↔ ∀ held ∈ edges.map claim, held := by rw [same]
  rwa [List.forall_mem_map, List.forall_mem_map] at all

theorem exists_images_iff {rename : Node → Node} {claim imageClaim : Edge → Prop} {edges images : List Edge}
    (shapes : images.map (Edge.shape id) = edges.map (Edge.shape rename))
    (each : ∀ edge ∈ edges, ∀ image, image.shape id = edge.shape rename → (imageClaim image ↔ claim edge)) :
    (∃ image ∈ images, imageClaim image) ↔ ∃ edge ∈ edges, claim edge := by
  rw [← not_iff_not, not_exists, not_exists]
  simp only [not_and]
  exact forall_images_iff shapes fun edge mem image shape => not_congr (each edge mem image shape)

end Program

end NestedFlow
