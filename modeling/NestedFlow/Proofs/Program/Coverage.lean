import NestedFlow.Proofs.Program.Decoding
import NestedFlow.Proofs.Program.Reachable

/-! The document of a program covers the whole of it: every node once, in an order in which all positions that are
asked for are known, and every edge once.
-/

set_option autoImplicit false

namespace NestedFlow

/-! ### Constants -/

mutual

/-- No data stands in the place of a value, at any depth. -/
def Value.isProper : Value → Bool
  | .sum _ values => Value.areProper values
  | .tuple values => Value.areProper values
  | .extension _ _ => true
  | .raw _ => false

def Value.areProper : List Value → Bool
  | [] => true
  | value :: rest => Value.isProper value && Value.areProper rest

end

mutual

theorem Value.exists_encode_of_proper : ∀ {value : Value}, value.isProper = true → ∃ doc, value.encode = .ok doc
  | .sum tag values, proper => by
    rw [Value.isProper] at proper
    obtain ⟨docs, encoded⟩ := Value.exists_encodeAll_of_proper proper
    exact ⟨.sum tag docs, by rw [Value.encode, encoded]; rfl⟩
  | .tuple values, proper => by
    rw [Value.isProper] at proper
    obtain ⟨docs, encoded⟩ := Value.exists_encodeAll_of_proper proper
    exact ⟨.tuple docs, by rw [Value.encode, encoded]; rfl⟩
  | .extension typ payload, _ => ⟨.extension typ.encode payload, by rw [Value.encode]; rfl⟩
  | .raw _, proper => by
    rw [Value.isProper] at proper
    cases proper

theorem Value.exists_encodeAll_of_proper : ∀ {values : List Value}, Value.areProper values = true →
    ∃ docs, Value.encodeAll values = .ok docs
  | [], _ => ⟨[], by rw [Value.encodeAll]; rfl⟩
  | value :: rest, proper => by
    rw [Value.areProper, Bool.and_eq_true] at proper
    obtain ⟨doc, encoded⟩ := Value.exists_encode_of_proper proper.1
    obtain ⟨docs, others⟩ := Value.exists_encodeAll_of_proper proper.2
    exact ⟨doc :: docs, by rw [Value.encodeAll, encoded, Outcome.ok_bind, others]; rfl⟩

end

/-- Only a constant can be without a document. -/
theorem Op.exists_encode_of_proper {op : Op} (proper : ∀ value typ, op = .const value typ → value.isProper = true) :
    ∃ doc, op.encode = .ok doc := by
  cases op with
  | const value typ =>
    obtain ⟨doc, encoded⟩ := Value.exists_encode_of_proper (proper value typ rfl)
    exact ⟨.const doc typ.encode, by rw [Op.encode, encoded]; rfl⟩
  | _ => exact ⟨_, rfl⟩

namespace Program

/-! ### The order -/

/-- An order of all nodes: each stands in it once, the root first and every parent before its children, and the
position of a node is found again. Both ends of an edge are among them. -/
structure Lists (program : Program) (order : List Node) : Prop where
  distinct : order.Nodup
  complete : ∀ node, node ∈ order ↔ program.contains node = true
  root_first : order.head? = some program.root
  parents_first : ∀ node parent, program.parent? node = .ok (some parent) → order.idxOf parent < order.idxOf node
  located : ∀ node ∈ order, positionOf (positions order) node = .ok (order.idxOf node)
  ends : ∀ edge ∈ program.graph.allEdges, edge.source.node ∈ order ∧ edge.target.node ∈ order

/-- In a list without repetitions the positions follow the order. -/
theorem idxOf_lt_of_sublist {order : List Node} {first second : Node} (distinct : order.Nodup)
    (pair : [first, second].Sublist order) : order.idxOf first < order.idxOf second := by
  induction order with
  | nil => cases pair
  | cons item rest ih =>
    rw [List.nodup_cons] at distinct
    cases pair with
    | cons _ pair =>
      have apart : ∀ {other}, other ∈ [first, second] → item ≠ other :=
        fun isEnd same => distinct.1 (same ▸ pair.subset isEnd)
      rw [List.idxOf_cons_ne _ (apart (by simp)), List.idxOf_cons_ne _ (apart (by simp))]
      exact Nat.succ_lt_succ (ih distinct.2 pair)
    | cons_cons _ pair =>
      have apart : first ≠ second := fun same => distinct.1 (same ▸ List.singleton_sublist.1 pair)
      rw [List.idxOf_cons_self, List.idxOf_cons_ne _ apart]
      exact Nat.succ_pos _

namespace AgreesOn

variable {program : Program} {kids : Node → List Node}

theorem position_lt (agrees : program.AgreesOn kids) {node parent : Node} (isChild : node ∈ kids parent) :
    program.position parent < program.position node := by
  have live := (agrees.kids_live parent node isChild).2
  apply idxOf_lt_of_sublist agrees.nodup_order
  exact ((List.singleton_sublist.2 isChild).cons_cons parent).trans (agrees.children_sublist_order live)

theorem lists_order (agrees : program.AgreesOn kids) : program.Lists program.order := by
  constructor
  case distinct => exact agrees.nodup_order
  case complete =>
    intro node
    rw [agrees.mem_order, agrees.contains_eq]
  case root_first =>
    obtain ⟨rest, same⟩ := agrees.head_order
    rw [same, List.head?_cons]
  case parents_first =>
    intro node parent above
    exact agrees.position_lt (agrees.parent?_eq_ok_some_iff.1 above)
  case located =>
    intro node isNode
    exact agrees.positionOf_eq (agrees.mem_order.1 isNode)
  case ends =>
    intro edge isEdge
    have live := agrees.live_of_mem_allEdges (agrees.mem_allEdges.2 (PortGraph.mem_allEdges.1 isEdge))
    exact ⟨agrees.mem_order.2 live.1, agrees.mem_order.2 live.2⟩

end AgreesOn

/-! ### The document -/

/-- A document of all nodes in an order and of all edges. A node has its operation and the position of its parent, which
comes earlier. The edges are those of the program, one by one, with the positions of their ends. -/
structure IsCoveredBy (program : Program) (order : List Node) (doc : ProgramDoc) : Prop where
  nodes : List.Forall₂ (fun node (part : NodeDoc) => ∃ op parent, program.op node = .ok op ∧
    op.encode = .ok part.op ∧ program.parent? node = .ok parent ∧
    part.parent = parent.map fun parent => (order.idxOf parent : Int)) order doc.nodes
  parents : ∀ (index : Nat) (part : NodeDoc) (above : Int), doc.nodes[index]? = some part → part.parent = some above →
    0 ≤ above ∧ above < index
  edges : ∃ listed : List Edge, listed.Perm program.graph.allEdges ∧ doc.edges = listed.map fun edge =>
    ⟨(order.idxOf edge.source.node, edge.source.offset), (order.idxOf edge.target.node, edge.target.offset), edge.kind⟩

namespace AgreesOn

variable {program : Program} {kids : Node → List Node}

/-- The edges that the nodes list are those that are recorded. -/
theorem allEdges_perm (agrees : program.AgreesOn kids) : program.allEdges.Perm program.graph.allEdges := by
  have distinct : program.graph.allEdges.Nodup := by
    apply List.Nodup.of_map Edge.id
    rw [PortGraph.allEdges, List.map_map]
    exact program.graph.links.nodup
  rw [List.perm_ext_iff_of_nodup agrees.nodup_allEdges distinct]
  intro edge
  rw [agrees.mem_allEdges, PortGraph.mem_allEdges]

theorem isCoveredBy_docWith (agrees : program.AgreesOn kids) {ops : Node → OpDoc}
    (encoded : ∀ node op, program.ops.get? node = some op → op.encode = .ok (ops node)) :
    program.IsCoveredBy program.order (program.docWith (program.nodeDoc ops)) := by
  constructor
  · rw [docWith, List.forall₂_map_right_iff, List.forall₂_same]
    intro node isNode
    have live := agrees.mem_order.1 isNode
    obtain ⟨op, found⟩ := agrees.get?_of_contains live
    exact ⟨op, program.hierarchy.parent? node, agrees.op_eq_ok_iff.2 found, encoded node op found,
      agrees.parent?_eq live, rfl⟩
  · intro index part above get isParent
    rw [docWith, List.getElem?_map, Option.map_eq_some_iff] at get
    obtain ⟨node, isHere, rfl⟩ := get
    have live := agrees.mem_order.1 (List.mem_of_getElem? isHere)
    rw [nodeDoc, Option.map_eq_some_iff] at isParent
    obtain ⟨parent, hasParent, rfl⟩ := isParent
    have earlier := agrees.position_lt ((agrees.stores.parent_iff node parent).1 hasParent)
    rw [(agrees.position_eq_iff live).2 isHere] at earlier
    exact ⟨Int.natCast_nonneg _, Int.ofNat_lt.2 earlier⟩
  · exact ⟨program.allEdges, agrees.allEdges_perm, rfl⟩

end AgreesOn

/-- A module with a constant and a loader of it, of which the latter is in a detached region in a slot that was used
before. -/
def loadingApart : Program :=
  (ofRoot .moduleRoot).edited [.addChild ⟨0, 0⟩ (.const (.unit 0) (.sum [[]])), .addNode .moduleRoot,
    .removeNode ⟨2, 0⟩, .addNode (.dfg [] [] none), .addChild ⟨2, 1⟩ (.loadConstant (.sum [[]])),
    .connect ⟨1, 0⟩ 0 ⟨3, 0⟩ 0]

end Program

end NestedFlow
