import NestedFlow.Proofs.Change
import NestedFlow.Proofs.PortGraph.Consistent

/-! Adding nodes, ports and edges to a consistent port graph. -/

set_option autoImplicit false

namespace NestedFlow.PortGraph

/-! ### Nodes -/

/-- The slot of a new node. -/
def filled (slot : Slot) (counts : Direction → Nat) : Slot :=
  ⟨slot.generation, true, List.replicate (counts .incoming) [], List.replicate (counts .outgoing) []⟩

theorem ports_filled (slot : Slot) (counts : Direction → Nat) (direction : Direction) :
    (filled slot counts).ports direction = List.replicate (counts direction) [] := by
  cases direction <;> rfl

def nextIndex (graph : PortGraph) : Nat :=
  match graph.free with
  | index :: _ => index
  | [] => graph.slots.length

/-- What is in the slot that is filled next. -/
def nextSlot (graph : PortGraph) : Slot := (graph.slots[graph.nextIndex]?).getD .vacant

/-- The node that is added next. -/
def nextNode (graph : PortGraph) : Node := ⟨graph.nextIndex, graph.nextSlot.generation⟩

/-- The graph with one more node, whose ports are unlinked. -/
def grown (graph : PortGraph) (counts : Direction → Nat) : PortGraph :=
  match graph.free with
  | index :: rest =>
    { graph.setSlot index fun slot => filled slot counts with free := rest, nodeCount := graph.nodeCount + 1 }
  | [] => { graph with slots := graph.slots ++ [filled .vacant counts], nodeCount := graph.nodeCount + 1 }

theorem run_addNode (graph : PortGraph) (counts : Direction → Nat) :
    (addNode (counts .incoming) (counts .outgoing)).run graph = .ok graph.nextNode (graph.grown counts) := by
  have nonnegative : ¬ ((counts .incoming : Int) < 0 ∨ (counts .outgoing : Int) < 0) := by omega
  rw [addNode, if_neg nonnegative, Change.run_bind_of_ok (Change.run_get graph)]
  simp only [Int.toNat_natCast]
  cases free : graph.free with
  | nil =>
    have fresh : graph.slots[graph.slots.length]? = none := List.getElem?_eq_none (Nat.le_refl _)
    rw [grown, nextNode, nextSlot, nextIndex, free]
    simp only [fresh]
    rfl
  | cons index rest =>
    rw [grown, nextNode, nextSlot, nextIndex, free]
    rfl

namespace Consistent

variable {graph : PortGraph}

/-- The next slot is dead, or new. -/
theorem dead_nextIndex (consistent : graph.Consistent) {slot : Slot} (get : graph.slots[graph.nextIndex]? = some slot) :
    slot.live = false := by
  rw [nextIndex] at get
  cases free : graph.free with
  | nil =>
    rw [free] at get
    simp at get
  | cons index rest =>
    rw [free] at get
    have member : index ∈ graph.free := by
      rw [free]
      exact List.mem_cons_self
    obtain ⟨found, getFound, dead⟩ := (consistent.free_iff index).1 member
    rw [get, Option.some.injEq] at getFound
    rwa [getFound]

theorem slot?_nextNode (consistent : graph.Consistent) : graph.slot? graph.nextNode = none := by
  cases found : graph.slot? graph.nextNode with
  | none => rfl
  | some slot =>
    obtain ⟨-, get, live, -⟩ := slot?_eq_some_iff.1 found
    rw [consistent.dead_nextIndex get] at live
    cases live

theorem contains_nextNode (consistent : graph.Consistent) : graph.contains graph.nextNode = false :=
  contains_eq_false_iff.2 consistent.slot?_nextNode

theorem slots_grown (consistent : graph.Consistent) (counts : Direction → Nat) (index : Nat) :
    (graph.grown counts).slots[index]? =
      if index = graph.nextIndex then some (filled graph.nextSlot counts) else graph.slots[index]? := by
  rw [nextSlot]
  -- either a new slot comes at the end, or the slot that was freed last is filled
  cases free : graph.free with
  | nil =>
    have next : graph.nextIndex = graph.slots.length := by rw [nextIndex, free]
    have fresh : graph.slots[graph.slots.length]? = none := List.getElem?_eq_none (Nat.le_refl _)
    rw [next, fresh, grown, free]
    change (graph.slots ++ [filled .vacant counts])[index]? = _
    by_cases here : index = graph.slots.length
    · subst here
      simp
    · rw [if_neg here]
      by_cases before : index < graph.slots.length
      · exact List.getElem?_append_left before
      · rw [List.getElem?_eq_none, List.getElem?_eq_none]
        · omega
        · rw [List.length_append, List.length_singleton]
          omega
  | cons first rest =>
    have next : graph.nextIndex = first := by rw [nextIndex, free]
    have member : first ∈ graph.free := by
      rw [free]
      exact List.mem_cons_self
    obtain ⟨found, get, -⟩ := (consistent.free_iff first).1 member
    rw [next, grown, free]
    change (graph.slots.modify first fun slot => filled slot counts)[index]? = _
    rw [List.getElem?_modify]
    by_cases here : first = index
    · subst here
      simp [get]
    · have apart : index ≠ first := fun same => here same.symm
      simp [here, apart]

theorem slot?_grown (consistent : graph.Consistent) (counts : Direction → Nat) (node : Node) :
    (graph.grown counts).slot? node =
      if node = graph.nextNode then some (filled graph.nextSlot counts) else graph.slot? node := by
  apply Option.ext
  intro slot
  rw [slot?_eq_some_iff, consistent.slots_grown]
  by_cases same : node = graph.nextNode
  · rw [if_pos same, same]
    simp only [nextNode, Int.toNat_natCast, if_true, Option.some.injEq]
    constructor
    · exact fun held => held.2.1
    · rintro rfl
      exact ⟨Int.natCast_nonneg _, rfl, rfl, rfl⟩
  · rw [if_neg same, slot?_eq_some_iff]
    by_cases index : node.index.toNat = graph.nextIndex
    · -- an earlier node of the slot has another generation, and was dead before as well
      rw [if_pos index]
      constructor
      · rintro ⟨lower, held, -, generation⟩
        exfalso
        apply same
        rw [Option.some.injEq] at held
        subst held
        rw [nextNode, Node.mk.injEq]
        exact ⟨by omega, generation.symm⟩
      · rintro ⟨-, held, live, -⟩
        rw [index] at held
        rw [consistent.dead_nextIndex held] at live
        cases live
    · rw [if_neg index]

theorem contains_grown (consistent : graph.Consistent) (counts : Direction → Nat) (node : Node) :
    (graph.grown counts).contains node = (decide (node = graph.nextNode) || graph.contains node) := by
  rw [contains, contains, consistent.slot?_grown]
  by_cases same : node = graph.nextNode <;> simp [same]

theorem portsOf_grown (consistent : graph.Consistent) (counts : Direction → Nat) (node : Node)
    (direction : Direction) :
    (graph.grown counts).portsOf node direction =
      if node = graph.nextNode then List.replicate (counts direction) [] else graph.portsOf node direction := by
  rw [portsOf, portsOf, consistent.slot?_grown]
  by_cases same : node = graph.nextNode
  · rw [if_pos same, if_pos same]
    exact ports_filled _ counts direction
  · rw [if_neg same, if_neg same]

@[simp] theorem idsAt_grown (consistent : graph.Consistent) (counts : Direction → Nat) (port : Port) :
    (graph.grown counts).idsAt port = graph.idsAt port := by
  rw [idsAt, idsAt, consistent.portsOf_grown]
  split
  · rfl
  · split
    · rename_i here
      rw [portsOf, here, consistent.slot?_nextNode, List.getElem?_replicate]
      split <;> rfl
    · rfl

theorem links_grown (counts : Direction → Nat) : (graph.grown counts).links = graph.links := by
  rw [grown]
  split <;> rfl

theorem nextEdge_grown (counts : Direction → Nat) : (graph.grown counts).nextEdge = graph.nextEdge := by
  rw [grown]
  split <;> rfl

theorem mem_free_grown (consistent : graph.Consistent) (counts : Direction → Nat) (index : Nat) :
    index ∈ (graph.grown counts).free ↔ index ∈ graph.free ∧ index ≠ graph.nextIndex := by
  have distinct := consistent.free_nodup
  rw [grown, nextIndex]
  cases free : graph.free with
  | nil => simp
  | cons first rest =>
    rw [free, List.nodup_cons] at distinct
    simp only [List.mem_cons]
    constructor
    · intro later
      exact ⟨.inr later, fun same => distinct.1 (same ▸ later)⟩
    · rintro ⟨same | later, apart⟩
      · exact absurd same apart
      · exact later

theorem perm_nodes_grown (consistent : graph.Consistent) (counts : Direction → Nat) :
    (graph.grown counts).nodes.Perm (graph.nextNode :: graph.nodes) := by
  rw [List.perm_ext_iff_of_nodup (nodup_nodes _)]
  · intro node
    rw [mem_nodes, consistent.contains_grown, List.mem_cons, mem_nodes, Bool.or_eq_true, decide_eq_true_iff]
  · rw [List.nodup_cons, mem_nodes, consistent.contains_nextNode]
    exact ⟨by simp, nodup_nodes _⟩

theorem grown (consistent : graph.Consistent) (counts : Direction → Nat) : (graph.grown counts).Consistent where
  listed_iff id port := by
    rw [consistent.idsAt_grown, links_grown]
    exact consistent.listed_iff id port
  distinct port := by
    rw [consistent.idsAt_grown]
    exact consistent.distinct port
  fresh id link found := by
    rw [links_grown] at found
    rw [nextEdge_grown]
    exact consistent.fresh id link found
  vacant index slot get dead := by
    rw [consistent.slots_grown] at get
    split at get
    · rw [Option.some.injEq] at get
      subst get
      cases dead
    · exact consistent.vacant index slot get dead
  free_nodup := by
    have distinct := consistent.free_nodup
    rw [PortGraph.grown]
    cases free : graph.free with
    | nil => exact List.nodup_nil
    | cons first rest =>
      rw [free] at distinct
      exact distinct.of_cons
  free_iff index := by
    rw [consistent.mem_free_grown, consistent.free_iff, consistent.slots_grown]
    by_cases here : index = graph.nextIndex
    · simp [here, filled]
    · simp [here]
  nodeCount_eq := by
    have count : (graph.grown counts).nodeCount = graph.nodeCount + 1 := by
      rw [PortGraph.grown]
      split <;> rfl
    rw [count, (consistent.perm_nodes_grown counts).length_eq, List.length_cons, consistent.nodeCount_eq]

end Consistent

/-! ### Ports -/

/-- The graph with other ports on one side of a node. -/
def withPorts (graph : PortGraph) (node : Node) (direction : Direction) (change : List (List Nat) → List (List Nat)) :
    PortGraph :=
  graph.setSlot node.index.toNat fun slot => slot.withPorts direction (change (slot.ports direction))

theorem run_setPorts (graph : PortGraph) (node : Node) (direction : Direction)
    (change : List (List Nat) → List (List Nat)) :
    (setPorts node direction change).run graph = .ok () (graph.withPorts node direction change) := rfl

section

variable {graph : PortGraph} {node : Node} (direction : Direction) (change : List (List Nat) → List (List Nat))

theorem slot?_withPorts (live : graph.contains node = true) (other : Node) :
    (graph.withPorts node direction change).slot? other =
      (graph.slot? other).map fun slot =>
        if other = node then slot.withPorts direction (change (slot.ports direction)) else slot := by
  obtain ⟨slot, found⟩ := contains_iff.1 live
  obtain ⟨nonnegative, get, alive, generation⟩ := slot?_eq_some_iff.1 found
  have kept : ∀ slot : Slot, (slot.withPorts direction (change (slot.ports direction))).live = slot.live ∧
      (slot.withPorts direction (change (slot.ports direction))).generation = slot.generation := by
    intro slot
    cases direction <;> exact ⟨rfl, rfl⟩
  by_cases same : other = node
  · subst same
    rw [found, Option.map_some, if_pos rfl, slot?_eq_some_iff]
    refine ⟨nonnegative, ?_, by rw [(kept slot).1, alive], by rw [(kept slot).2, generation]⟩
    change (graph.slots.modify other.index.toNat _)[other.index.toNat]? = _
    rw [List.getElem?_modify, get]
    simp
  · simp only [same, if_false, Option.map_id']
    apply Option.ext
    intro wanted
    rw [slot?_eq_some_iff]
    change 0 ≤ other.index ∧ (graph.slots.modify node.index.toNat _)[other.index.toNat]? = _ ∧ _ ↔ _
    rw [List.getElem?_modify]
    by_cases index : node.index.toNat = other.index.toNat
    · -- the slot has its generation still, which is the one of the live node
      have dead := slot?_of_shared found index same
      rw [dead]
      refine iff_of_false ?_ (fun held => nomatch held)
      rintro ⟨lower, held, -, matching⟩
      rw [← index, get] at held
      simp only [if_true, Option.map_eq_map, Option.map_some, Option.some.injEq] at held
      subst held
      rw [(kept slot).2] at matching
      have revived := slot?_eq_some_iff.2 ⟨lower, index ▸ get, alive, matching⟩
      rw [dead] at revived
      cases revived
    · rw [slot?_eq_some_iff]
      simp only [index, if_false, Option.map_eq_map, Option.map_id']

theorem contains_withPorts (live : graph.contains node = true) (other : Node) :
    (graph.withPorts node direction change).contains other = graph.contains other := by
  rw [contains, contains, slot?_withPorts direction change live, Option.isSome_map]

theorem portsOf_withPorts (live : graph.contains node = true) (other : Node) (side : Direction) :
    (graph.withPorts node direction change).portsOf other side =
      if other = node ∧ side = direction then change (graph.portsOf node direction) else graph.portsOf other side := by
  obtain ⟨slot, found⟩ := contains_iff.1 live
  rw [portsOf, slot?_withPorts direction change live]
  by_cases same : other = node
  · subst same
    simp only [found, Option.map_some, if_true, true_and, portsOf_of_slot? found]
    cases direction <;> cases side <;> rfl
  · simp only [same, if_false, false_and, Option.map_id']
    rw [portsOf]

theorem Tidy.withPorts (tidy : graph.Tidy) (live : graph.contains node = true) :
    (graph.withPorts node direction change).Tidy := by
  obtain ⟨slot, found⟩ := contains_iff.1 live
  obtain ⟨-, get, alive, -⟩ := slot?_eq_some_iff.1 found
  -- the slot of the node is live before and after, so the dead slots stay as they are
  have dead : ∀ (index : Nat) (other : Slot), other.live = false →
      ((graph.withPorts node direction change).slots[index]? = some other ↔ graph.slots[index]? = some other) := by
    intro index other isDead
    change (graph.slots.modify node.index.toNat _)[index]? = _ ↔ _
    rw [List.getElem?_modify]
    by_cases here : node.index.toNat = index
    · subst here
      simp only [get, if_true, Option.map_eq_map, Option.map_some, Option.some.injEq]
      constructor
      · rintro rfl
        cases direction <;> exact absurd (alive.symm.trans isDead) (by decide)
      · rintro rfl
        exact absurd (alive.symm.trans isDead) (by decide)
    · simp only [here, if_false, Option.map_eq_map, Option.map_id']
  refine ⟨?_, tidy.free_nodup, ?_, ?_⟩
  · intro index other held isDead
    exact tidy.vacant index other ((dead index other isDead).1 held) isDead
  · intro index
    refine (tidy.free_iff index).trans (exists_congr fun other => ?_)
    constructor
    · rintro ⟨held, isDead⟩
      exact ⟨(dead index other isDead).2 held, isDead⟩
    · rintro ⟨held, isDead⟩
      exact ⟨(dead index other isDead).1 held, isDead⟩
  · exact tidy.nodeCount_eq.trans (length_nodes_of_contains (contains_withPorts direction change live)).symm

end

theorem checkCount_eq_ok_iff {node : Node} {ports : List (List Nat)} {direction : Direction} {count : Nat} :
    checkCount node ports direction count = .ok () ↔ ∀ listed ∈ ports.drop count, listed = [] := by
  have nonnegative : ¬ (count : Int) < 0 := by omega
  have search : (ports.drop count).findIdx? (fun listed => !listed.isEmpty) = none ↔
      ∀ listed ∈ ports.drop count, listed = [] := by
    simp [List.findIdx?_eq_none_iff]
  rw [checkCount, if_neg nonnegative, Int.toNat_natCast, firstLinked?, ← search]
  cases (ports.drop count).findIdx? fun listed => !listed.isEmpty <;> simp [failAt]

@[simp] theorem length_resize (count : Nat) (ports : List (List Nat)) : (resize count ports).length = count := by
  simp only [resize, List.length_append, List.length_take, List.length_replicate]
  omega

theorem getD_resize {count : Nat} {ports : List (List Nat)} (unlinked : ∀ listed ∈ ports.drop count, listed = [])
    (offset : Nat) : ((resize count ports)[offset]?).getD [] = (ports[offset]?).getD [] := by
  rw [resize, List.getElem?_append, List.length_take]
  split
  · rename_i inside
    rw [List.getElem?_take_of_lt (by omega)]
  · rename_i outside
    have new : ((List.replicate (count - ports.length) ([] : List Nat))[offset - min count ports.length]?).getD [] =
        [] := by
      rw [List.getElem?_replicate]
      split <;> rfl
    rw [new]
    cases get : ports[offset]? with
    | none => rfl
    | some listed =>
      have bound := (List.getElem?_eq_some_iff.1 get).1
      have dropped : (ports.drop count)[offset - count]? = some listed := by
        rw [List.getElem?_drop, ← get]
        congr 1
        omega
      rw [unlinked listed (List.mem_of_getElem? dropped)]
      rfl

/-- A node may have these numbers of ports if no linked port is dropped. -/
def Fits (graph : PortGraph) (node : Node) (counts : Direction → Nat) : Prop :=
  ∀ direction, ∀ listed ∈ (graph.portsOf node direction).drop (counts direction), listed = []

/-- The graph with other numbers of ports at a node. -/
def resized (graph : PortGraph) (node : Node) (counts : Direction → Nat) : PortGraph :=
  (graph.withPorts node .incoming (resize (counts .incoming))).withPorts node .outgoing (resize (counts .outgoing))

theorem run_setNumPorts {graph : PortGraph} {node : Node} {counts : Direction → Nat}
    (live : graph.contains node = true) (fits : graph.Fits node counts) :
    (setNumPorts node (counts .incoming) (counts .outgoing)).run graph = .ok () (graph.resized node counts) := by
  obtain ⟨slot, found⟩ := contains_iff.1 live
  have each : ∀ direction, checkCount node (slot.ports direction) direction (counts direction) = .ok () := by
    intro direction
    rw [checkCount_eq_ok_iff, ← portsOf_of_slot? found]
    exact fits direction
  have inputs : checkCount node slot.inputs .incoming (counts .incoming) = .ok () := each .incoming
  have outputs : checkCount node slot.outputs .outgoing (counts .outgoing) = .ok () := each .outgoing
  simp only [setNumPorts, Change.run_ask_bind, slot_of_slot? found, inputs, outputs, Int.toNat_natCast]
  rw [Change.run_bind_of_ok (run_setPorts ..), run_setPorts]
  rfl

theorem run_setNumPorts_of_not {graph : PortGraph} {node : Node} {counts : Direction → Nat}
    (unfit : ¬ (graph.contains node = true ∧ graph.Fits node counts)) :
    ∃ error, (setNumPorts node (counts .incoming) (counts .outgoing)).run graph = .error error graph := by
  cases found : graph.slot node with
  | error error =>
    refine ⟨error, ?_⟩
    simp only [setNumPorts, Change.run_ask_bind, found]
  | ok slot =>
    cases inputs : checkCount node slot.inputs .incoming (counts .incoming) with
    | error error =>
      refine ⟨error, ?_⟩
      simp only [setNumPorts, Change.run_ask_bind, found, inputs]
    | ok _ =>
      cases outputs : checkCount node slot.outputs .outgoing (counts .outgoing) with
      | error error =>
        refine ⟨error, ?_⟩
        simp only [setNumPorts, Change.run_ask_bind, found, inputs, outputs]
      | ok _ =>
        exfalso
        apply unfit
        have held := slot_eq_ok_iff.1 found
        refine ⟨contains_iff.2 ⟨slot, held⟩, fun direction => ?_⟩
        rw [portsOf_of_slot? held]
        cases direction with
        | incoming => exact checkCount_eq_ok_iff.1 inputs
        | outgoing => exact checkCount_eq_ok_iff.1 outputs

section

variable {graph : PortGraph} {node : Node} (counts : Direction → Nat)

theorem contains_resized (live : graph.contains node = true) (other : Node) :
    (graph.resized node counts).contains other = graph.contains other := by
  rw [resized, contains_withPorts, contains_withPorts _ _ live]
  rw [contains_withPorts _ _ live, live]

theorem portsOf_resized (live : graph.contains node = true) (other : Node) (direction : Direction) :
    (graph.resized node counts).portsOf other direction =
      if other = node then resize (counts direction) (graph.portsOf node direction)
      else graph.portsOf other direction := by
  have still : (graph.withPorts node .incoming (resize (counts .incoming))).contains node = true := by
    rw [contains_withPorts _ _ live, live]
  rw [resized, portsOf_withPorts _ _ still, portsOf_withPorts _ _ live, portsOf_withPorts _ _ live]
  cases direction <;> simp

/-- Nothing changes if a node gets as many ports as it has. -/
theorem resized_eq_self (counts_eq : ∀ direction, (graph.portsOf node direction).length = counts direction)
    (live : graph.contains node = true) : graph.resized node counts = graph := by
  obtain ⟨slot, found⟩ := contains_iff.1 live
  obtain ⟨-, get, -, -⟩ := slot?_eq_some_iff.1 found
  have own : ∀ direction, graph.withPorts node direction (resize (counts direction)) = graph := by
    intro direction
    have ports : resize (counts direction) (slot.ports direction) = slot.ports direction := by
      rw [resize, ← counts_eq direction, portsOf_of_slot? found]
      simp
    have slots : graph.slots.modify node.index.toNat
        (fun slot => slot.withPorts direction (resize (counts direction) (slot.ports direction))) = graph.slots := by
      apply List.ext_getElem?
      intro index
      rw [List.getElem?_modify]
      split
      · rename_i here
        rw [← here, get, Option.map_eq_map, Option.map_some, ports]
        cases direction <;> rfl
      · simp
    rw [withPorts, setSlot, slots]
  rw [resized, own, own]

theorem idsAt_resized (live : graph.contains node = true) (fits : graph.Fits node counts) (port : Port) :
    (graph.resized node counts).idsAt port = graph.idsAt port := by
  rw [idsAt, idsAt, portsOf_resized counts live]
  split
  · rfl
  · split
    · rename_i here
      rw [getD_resize (fits port.direction), here]
    · rfl

theorem Consistent.resized (consistent : graph.Consistent) (live : graph.contains node = true)
    (fits : graph.Fits node counts) : (graph.resized node counts).Consistent where
  toTidy := by
    apply (consistent.toTidy.withPorts .incoming _ live).withPorts
    rw [contains_withPorts _ _ live, live]
  listed_iff id port := by
    rw [idsAt_resized counts live fits]
    exact consistent.listed_iff id port
  distinct port := by
    rw [idsAt_resized counts live fits]
    exact consistent.distinct port
  fresh := consistent.fresh

end

/-! ### Edges -/

/-- The graph with an edge listed at a port. -/
def attached (graph : PortGraph) (id : Nat) (port : Port) : PortGraph :=
  graph.withPorts port.node port.direction fun ports =>
    ports.modify port.offset.toNat fun listed => listed ++ [id]

/-- The graph with one more edge. -/
def linked (graph : PortGraph) (source target : Port) (kind : EdgeKind) : PortGraph :=
  ({ graph with
    nextEdge := graph.nextEdge + 1
    links := graph.links.insert graph.nextEdge
      ⟨source.node, source.offset, target.node, target.offset, kind⟩ : PortGraph }.attached
    graph.nextEdge source).attached graph.nextEdge target

theorem run_connect {graph : PortGraph} {source target : Port} (kind : EdgeKind)
    (out : source.direction = .outgoing) (into : target.direction = .incoming) (hasSource : graph.HasPort source)
    (hasTarget : graph.HasPort target) :
    (connect source target kind).run graph =
      .ok ⟨graph.nextEdge, source, target, kind⟩ (graph.linked source target kind) := by
  have directed : ¬ (source.direction ≠ .outgoing ∨ target.direction ≠ .incoming) := by simp [out, into]
  rw [connect, if_neg directed]
  simp only [Change.run_ask_bind, checkPort_eq_ok_iff.2 hasSource, checkPort_eq_ok_iff.2 hasTarget]
  rfl

theorem run_connect_of_not {graph : PortGraph} {source target : Port} (kind : EdgeKind)
    (unfit : ¬ (source.direction = .outgoing ∧ target.direction = .incoming ∧ graph.HasPort source ∧
      graph.HasPort target)) : ∃ error, (connect source target kind).run graph = .error error graph := by
  by_cases directed : source.direction ≠ .outgoing ∨ target.direction ≠ .incoming
  · rw [connect, if_pos directed]
    exact ⟨_, rfl⟩
  · rw [connect, if_neg directed]
    rw [not_or, not_not, not_not] at directed
    cases hasSource : graph.checkPort source with
    | error error =>
      refine ⟨error, ?_⟩
      simp only [Change.run_ask_bind, hasSource]
    | ok _ =>
      cases hasTarget : graph.checkPort target with
      | error error =>
        refine ⟨error, ?_⟩
        simp only [Change.run_ask_bind, hasSource, hasTarget]
      | ok _ =>
        exact absurd ⟨directed.1, directed.2, checkPort_eq_ok_iff.1 hasSource, checkPort_eq_ok_iff.1 hasTarget⟩ unfit

section

variable {graph : PortGraph} {port : Port} (id : Nat)

theorem contains_attached (has : graph.HasPort port) (other : Node) :
    (graph.attached id port).contains other = graph.contains other :=
  contains_withPorts _ _ (contains_of_hasPort has) other

theorem length_portsOf_attached (has : graph.HasPort port) (node : Node) (direction : Direction) :
    ((graph.attached id port).portsOf node direction).length = (graph.portsOf node direction).length := by
  rw [attached, portsOf_withPorts _ _ (contains_of_hasPort has)]
  split
  · rename_i here
    rw [List.length_modify, here.1, here.2]
  · rfl

theorem hasPort_attached (has : graph.HasPort port) (other : Port) :
    (graph.attached id port).HasPort other ↔ graph.HasPort other := by
  rw [HasPort, HasPort, length_portsOf_attached id has]

theorem idsAt_attached (has : graph.HasPort port) (other : Port) :
    (graph.attached id port).idsAt other =
      if other = port then graph.idsAt port ++ [id] else graph.idsAt other := by
  obtain ⟨lower, upper⟩ := has
  have live := contains_of_hasPort ⟨lower, upper⟩
  rw [idsAt, attached, portsOf_withPorts _ _ live]
  by_cases same : other = port
  · subst same
    have inside : other.offset.toNat < (graph.portsOf other.node other.direction).length := by omega
    rw [if_neg (by omega), if_pos ⟨rfl, rfl⟩, if_pos rfl, idsAt, if_neg (by omega), List.getElem?_modify,
      List.getElem?_eq_getElem inside]
    simp
  · rw [if_neg same, idsAt]
    by_cases negative : other.offset < 0
    · rw [if_pos negative, if_pos negative]
    · rw [if_neg negative, if_neg negative]
      split
      · rename_i here
        -- on the same side of the same node, another port has another offset
        have apart : port.offset.toNat ≠ other.offset.toNat := by
          intro offset
          apply same
          obtain ⟨node, direction, position⟩ := other
          obtain ⟨node', direction', position'⟩ := port
          simp only at here offset lower negative
          rw [Port.mk.injEq]
          exact ⟨here.1, here.2, by omega⟩
        rw [List.getElem?_modify, here.1, here.2]
        simp [apart]
      · rfl

end

section

variable {graph : PortGraph} {source target : Port} (kind : EdgeKind)

theorem contains_linked (hasSource : graph.HasPort source) (hasTarget : graph.HasPort target) (node : Node) :
    (graph.linked source target kind).contains node = graph.contains node := by
  rw [linked, contains_attached, contains_attached]
  · rfl
  · exact hasSource
  · exact (hasPort_attached _ hasSource target).2 hasTarget

theorem length_portsOf_linked (hasSource : graph.HasPort source) (hasTarget : graph.HasPort target) (node : Node)
    (direction : Direction) :
    ((graph.linked source target kind).portsOf node direction).length = (graph.portsOf node direction).length := by
  rw [linked, length_portsOf_attached, length_portsOf_attached]
  · rfl
  · exact hasSource
  · exact (hasPort_attached _ hasSource target).2 hasTarget

theorem idsAt_linked (apart : source ≠ target) (hasSource : graph.HasPort source) (hasTarget : graph.HasPort target)
    (port : Port) :
    (graph.linked source target kind).idsAt port =
      if port = source ∨ port = target then graph.idsAt port ++ [graph.nextEdge] else graph.idsAt port := by
  rw [linked, idsAt_attached, idsAt_attached, idsAt_attached]
  · by_cases atTarget : port = target
    · subst atTarget
      rw [if_pos rfl, if_neg apart.symm, if_pos (.inr rfl)]
      rfl
    · rw [if_neg atTarget]
      by_cases atSource : port = source
      · subst atSource
        rw [if_pos rfl, if_pos (.inl rfl)]
        rfl
      · rw [if_neg atSource, if_neg (by simp [atSource, atTarget])]
        rfl
  · exact hasSource
  · exact hasSource
  · exact (hasPort_attached _ hasSource target).2 hasTarget

theorem links_linked (id : Nat) :
    (graph.linked source target kind).links.get? id =
      if graph.nextEdge = id then some ⟨source.node, source.offset, target.node, target.offset, kind⟩
      else graph.links.get? id := Table.get?_insert ..

/-- The ports of a new edge are its two ends. -/
theorem port_link_iff (out : source.direction = .outgoing) (into : target.direction = .incoming) (port : Port) :
    (⟨source.node, source.offset, target.node, target.offset, kind⟩ : Link).port port.direction = port ↔
      port = source ∨ port = target := by
  obtain ⟨node, direction, offset⟩ := port
  obtain ⟨sourceNode, sourceDirection, sourceOffset⟩ := source
  obtain ⟨targetNode, targetDirection, targetOffset⟩ := target
  simp only at out into
  subst out into
  cases direction <;>
    simp only [Link.port, Link.node, Link.offset, Port.mk.injEq, reduceCtorEq, false_and, and_false, false_or,
      or_false, true_and, eq_comm]

theorem Consistent.nextEdge_unrecorded (consistent : graph.Consistent) : graph.links.get? graph.nextEdge = none := by
  cases found : graph.links.get? graph.nextEdge with
  | none => rfl
  | some link => exact absurd (consistent.fresh _ link found) (Nat.lt_irrefl _)

theorem Consistent.nextEdge_unlisted (consistent : graph.Consistent) (port : Port) :
    graph.nextEdge ∉ graph.idsAt port := by
  intro listed
  obtain ⟨link, found, -⟩ := (consistent.listed_iff _ port).1 listed
  rw [consistent.nextEdge_unrecorded] at found
  cases found

theorem Consistent.tidy_linked (consistent : graph.Consistent) (hasSource : graph.HasPort source)
    (hasTarget : graph.HasPort target) : (graph.linked source target kind).Tidy := by
  have recorded : { graph with
      nextEdge := graph.nextEdge + 1
      links := graph.links.insert graph.nextEdge
        ⟨source.node, source.offset, target.node, target.offset, kind⟩ : PortGraph }.Tidy :=
    ⟨consistent.vacant, consistent.free_nodup, consistent.free_iff, consistent.nodeCount_eq⟩
  apply (recorded.withPorts source.direction _ (contains_of_hasPort hasSource)).withPorts
  exact (contains_attached _ hasSource target.node).trans (contains_of_hasPort hasTarget)

theorem Consistent.linked (consistent : graph.Consistent) (out : source.direction = .outgoing)
    (into : target.direction = .incoming) (hasSource : graph.HasPort source) (hasTarget : graph.HasPort target) :
    (graph.linked source target kind).Consistent := by
  have apart := ne_of_sides out into
  refine ⟨consistent.tidy_linked kind hasSource hasTarget, ?_, ?_, ?_⟩
  · intro id port
    rw [idsAt_linked kind apart hasSource hasTarget, links_linked]
    by_cases fresh : graph.nextEdge = id
    · -- the new edge is listed at its ends, and was listed nowhere before
      subst fresh
      rw [if_pos rfl]
      constructor
      · intro listed
        refine ⟨_, rfl, (port_link_iff kind out into port).2 ?_⟩
        split at listed
        · assumption
        · exact absurd listed (consistent.nextEdge_unlisted port)
      · rintro ⟨link, same, atPort⟩
        rw [Option.some.injEq] at same
        subst same
        rw [if_pos ((port_link_iff kind out into port).1 atPort)]
        exact List.mem_append_right _ List.mem_cons_self
    · rw [if_neg fresh, ← consistent.listed_iff]
      split
      · have other : id ≠ graph.nextEdge := fun same => fresh same.symm
        simp [other]
      · rfl
  · intro port
    rw [idsAt_linked kind apart hasSource hasTarget]
    split
    · rw [List.nodup_append]
      refine ⟨consistent.distinct port, List.nodup_singleton _, ?_⟩
      intro id listed other single same
      rw [List.mem_singleton] at single
      subst single same
      exact consistent.nextEdge_unlisted port listed
    · exact consistent.distinct port
  · intro id link found
    change id < graph.nextEdge + 1
    rw [links_linked] at found
    split at found
    · omega
    · exact Nat.lt_succ_of_lt (consistent.fresh id link found)

end

end NestedFlow.PortGraph
