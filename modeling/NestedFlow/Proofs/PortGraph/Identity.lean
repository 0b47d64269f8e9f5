import NestedFlow.Proofs.PortGraph.Integrity

/-! Identities of nodes and edges over a run of edits.

The generation of a slot never falls, a live slot keeps its generation until it is freed, and freeing it raises the
generation. A node that was handed out is therefore at or below the generation of its slot ever after, while a new
node comes from a dead slot and is above. Edges are numbered upwards.
-/

set_option autoImplicit false

namespace NestedFlow

/-! ### Later graphs -/

/-- A slot may be filled in its generation, and has a higher one once it is free again. -/
def Slot.Ages (slot new : Slot) : Prop :=
  slot.generation < new.generation ∨ slot.generation = new.generation ∧ (slot.live = true → new.live = true)

theorem Slot.ages_self (slot : Slot) : slot.Ages slot := .inr ⟨rfl, id⟩

theorem Slot.ages_withPorts (slot : Slot) (direction : Direction) (ports : List (List Nat)) :
    slot.Ages (slot.withPorts direction ports) := by
  cases direction <;> exact .inr ⟨rfl, id⟩

namespace PortGraph

/-- What a graph may turn into. -/
structure Later (graph new : PortGraph) : Prop where
  nextEdge_le : graph.nextEdge ≤ new.nextEdge
  ages : ∀ (index : Nat) (slot : Slot), graph.slots[index]? = some slot →
    ∃ aged, new.slots[index]? = some aged ∧ slot.Ages aged

theorem later_of_slots {graph new : PortGraph} (slots : new.slots = graph.slots)
    (nextEdge_le : graph.nextEdge ≤ new.nextEdge) : graph.Later new where
  nextEdge_le := nextEdge_le
  ages _ slot get := ⟨slot, slots ▸ get, slot.ages_self⟩

instance : IsPreorder PortGraph Later where
  refl _ := later_of_slots rfl (Nat.le_refl _)
  trans first second third toSecond toThird := by
    refine ⟨Nat.le_trans toSecond.nextEdge_le toThird.nextEdge_le, ?_⟩
    intro index slot get
    obtain ⟨aged, getAged, older⟩ := toSecond.ages index slot get
    obtain ⟨last, getLast, oldest⟩ := toThird.ages index aged getAged
    refine ⟨last, getLast, ?_⟩
    rcases older with grows | ⟨same, keeps⟩ <;> rcases oldest with growsMore | ⟨sameMore, keepsMore⟩
    · exact .inl (Nat.lt_trans grows growsMore)
    · exact .inl (sameMore ▸ grows)
    · exact .inl (same ▸ growsMore)
    · exact .inr ⟨same.trans sameMore, fun live => keepsMore (keeps live)⟩

theorem later_of_modify {graph new : PortGraph} {index : Nat} {change : Slot → Slot}
    (slots : new.slots = graph.slots.modify index change) (nextEdge_le : graph.nextEdge ≤ new.nextEdge)
    (ages : ∀ slot : Slot, slot.Ages (change slot)) : graph.Later new where
  nextEdge_le := nextEdge_le
  ages position slot get := by
    rw [slots, List.getElem?_modify, get]
    by_cases here : index = position
    · exact ⟨change slot, by simp [here], ages slot⟩
    · exact ⟨slot, by simp [here], slot.ages_self⟩

/-! No change leads to anything but a later graph, even where it fails halfway. -/

section

variable {graph : PortGraph}

theorem leads_addNode (inputs outputs : Int) : (addNode inputs outputs).Leads Later graph := by
  rw [addNode]
  split
  · exact Change.leads_throw _
  · apply Change.leads_get_bind
    split
    · apply Change.Leads.bind (Change.leads_set ?_) fun _ _ _ => Change.leads_pure _
      exact later_of_modify rfl (Nat.le_refl _) fun slot => .inr ⟨rfl, fun _ => rfl⟩
    · apply Change.Leads.bind (Change.leads_set ?_) fun _ _ _ => Change.leads_pure _
      refine ⟨Nat.le_refl _, fun index slot get => ⟨slot, ?_, slot.ages_self⟩⟩
      exact (List.getElem?_append_left (List.getElem?_eq_some_iff.1 get).1).trans get

theorem leads_setPorts (node : Node) (direction : Direction) (change : List (List Nat) → List (List Nat)) :
    (setPorts node direction change).Leads Later graph :=
  Change.leads_modify (later_of_modify rfl (Nat.le_refl _) fun slot => slot.ages_withPorts direction _)

theorem leads_release (id : Nat) (node : Node) (direction : Direction) (offset : Int) :
    (release id node direction offset).Leads Later graph := by
  apply Change.leads_get_bind
  apply Change.leads_ask_bind
  intro index _
  apply Change.leads_ask_bind
  intro position _
  split
  · exact Change.leads_set (later_of_modify rfl (Nat.le_refl _) fun slot => slot.ages_withPorts direction _)
  · exact Change.leads_throw _

theorem leads_unlink (id : Nat) : (unlink id).Leads Later graph := by
  rw [unlink]
  apply Change.leads_ask_bind
  intro link _
  apply Change.Leads.bind (Change.leads_modify (later_of_slots rfl (Nat.le_refl _)))
  intro _ _ _
  exact (leads_release _ _ _ _).bind fun _ _ _ => leads_release _ _ _ _

theorem leads_removeNode (node : Node) : (removeNode node).Leads Later graph := by
  rw [removeNode]
  apply Change.leads_ask_bind
  intro slot _
  apply (Change.leads_mapM fun id _ => Change.leads_ask _).bind
  intro removed _ _
  apply (Change.leads_forM fun id _ => leads_unlink id).bind
  intro _ graph _
  apply Change.Leads.bind (Change.leads_modify ?_) fun _ _ _ => Change.leads_pure _
  exact later_of_modify rfl (Nat.le_refl _) fun slot => .inl (Nat.lt_succ_self slot.generation)

theorem leads_shiftAll (node : Node) (direction : Direction) (distance : Int) (ports : List (List Nat)) :
    (shiftAll node direction distance ports).Leads Later graph := by
  apply Change.leads_forM
  intro id graph
  apply Change.leads_ask_bind
  intro link _
  exact Change.leads_modify (later_of_slots rfl (Nat.le_refl _))

theorem leads_setNumPorts (node : Node) (inputs outputs : Int) : (setNumPorts node inputs outputs).Leads Later graph := by
  rw [setNumPorts]
  apply Change.leads_ask_bind
  intro slot _
  apply Change.leads_ask_bind
  intro _ _
  apply Change.leads_ask_bind
  intro _ _
  exact (leads_setPorts _ _ _).bind fun _ _ _ => leads_setPorts _ _ _

theorem leads_insertPort (node : Node) (direction : Direction) (offset : Int) :
    (insertPort node direction offset).Leads Later graph := by
  rw [insertPort]
  apply Change.leads_ask_bind
  intro slot _
  dsimp only
  split
  · exact Change.leads_throw _
  · exact (leads_setPorts _ _ _).bind fun _ _ _ => (leads_shiftAll _ _ _ _).bind fun _ _ _ => Change.leads_pure _

theorem leads_removePort (node : Node) (direction : Direction) (offset : Int) :
    (removePort node direction offset).Leads Later graph := by
  rw [removePort]
  apply Change.leads_ask_bind
  intro slot _
  apply Change.leads_ask_bind
  intro _ _
  dsimp only
  split
  · exact Change.leads_throw _
  · exact (leads_setPorts _ _ _).bind fun _ _ _ => leads_shiftAll _ _ _ _

theorem leads_connect (source target : Port) (kind : EdgeKind) : (connect source target kind).Leads Later graph := by
  rw [connect]
  split
  · exact Change.leads_throw _
  · apply Change.leads_ask_bind
    intro _ _
    apply Change.leads_ask_bind
    intro _ _
    apply Change.leads_get_bind
    apply Change.Leads.bind (Change.leads_modify (later_of_slots rfl (Nat.le_succ _)))
    intro _ _ _
    exact (leads_setPorts _ _ _).bind fun _ _ _ => (leads_setPorts _ _ _).bind fun _ _ _ => Change.leads_pure _

theorem leads_disconnect (edge : Int) : (disconnect edge).Leads Later graph := by
  rw [disconnect]
  apply Change.leads_ask_bind
  intro known _
  apply Change.leads_ask_bind
  intro _ _
  exact (leads_unlink known).bind fun _ _ _ => Change.leads_pure _

theorem later_apply (edit : Edit) : graph.Later (edit.apply graph) := by
  cases edit with
  | addNode inputs outputs => exact leads_addNode inputs outputs
  | removeNode node => exact leads_removeNode node
  | setNumPorts node inputs outputs => exact leads_setNumPorts node inputs outputs
  | insertPort node direction offset => exact leads_insertPort node direction offset
  | removePort node direction offset => exact leads_removePort node direction offset
  | connect source target kind => exact leads_connect source target kind
  | disconnect edge => exact leads_disconnect edge

theorem later_of_edits (edits : List Edit) : graph.Later (edits.foldl (fun graph edit => edit.apply graph) graph) := by
  induction edits generalizing graph with
  | nil => exact refl_of Later graph
  | cons edit rest ih => exact trans_of Later (later_apply edit) ih

end

/-! ### Identities that were handed out -/

/-- A live node, or one that will never be live again. -/
def Issued (graph : PortGraph) (node : Node) : Prop :=
  ∃ slot, graph.slots[node.index.toNat]? = some slot ∧
    (node.generation < slot.generation ∨ node.generation = slot.generation ∧ slot.live = true)

/-- The slot of the node has moved on. -/
def Retired (graph : PortGraph) (node : Node) : Prop :=
  ∃ slot, graph.slots[node.index.toNat]? = some slot ∧ node.generation < slot.generation

section

variable {graph new : PortGraph} {node : Node}

theorem Issued.later (issued : graph.Issued node) (later : graph.Later new) : new.Issued node := by
  obtain ⟨slot, get, below | ⟨same, live⟩⟩ := issued
  · obtain ⟨aged, getAged, older | ⟨level, -⟩⟩ := later.ages _ slot get
    · exact ⟨aged, getAged, .inl (by omega)⟩
    · exact ⟨aged, getAged, .inl (by omega)⟩
  · obtain ⟨aged, getAged, older | ⟨level, keeps⟩⟩ := later.ages _ slot get
    · exact ⟨aged, getAged, .inl (by omega)⟩
    · exact ⟨aged, getAged, .inr ⟨by omega, keeps live⟩⟩

theorem Retired.later (retired : graph.Retired node) (later : graph.Later new) : new.Retired node := by
  obtain ⟨slot, get, below⟩ := retired
  obtain ⟨aged, getAged, ages⟩ := later.ages _ slot get
  refine ⟨aged, getAged, ?_⟩
  rcases ages with older | ⟨level, -⟩ <;> omega

theorem issued_of_contains (live : graph.contains node = true) : graph.Issued node := by
  obtain ⟨slot, found⟩ := contains_iff.1 live
  obtain ⟨-, get, alive, generation⟩ := slot?_eq_some_iff.1 found
  exact ⟨slot, get, .inr ⟨generation.symm, alive⟩⟩

theorem Retired.not_contains (retired : graph.Retired node) : graph.contains node = false := by
  cases live : graph.contains node with
  | false => rfl
  | true =>
    obtain ⟨slot, get, below⟩ := retired
    obtain ⟨held, found⟩ := contains_iff.1 live
    obtain ⟨-, getHeld, -, generation⟩ := slot?_eq_some_iff.1 found
    rw [get, Option.some.injEq] at getHeld
    subst getHeld
    omega

/-- A new node comes from a dead slot. -/
theorem Consistent.not_issued_nextNode (consistent : graph.Consistent) : ¬ graph.Issued graph.nextNode := by
  rintro ⟨slot, get, issued⟩
  change graph.slots[graph.nextIndex]? = some slot at get
  have generation : graph.nextNode.generation = slot.generation := by rw [nextNode, nextSlot, get]; rfl
  rcases issued with below | ⟨-, live⟩
  · omega
  · rw [consistent.dead_nextIndex get] at live
    cases live

theorem retired_withoutNode (live : graph.contains node = true) : (graph.withoutNode node).Retired node := by
  obtain ⟨slot, found⟩ := contains_iff.1 live
  obtain ⟨-, get, -, generation⟩ := slot?_eq_some_iff.1 found
  have unlinked : (graph.withoutEdges (graph.incident node)).slots[node.index.toNat]? =
      some (slot.withoutEdges (graph.incident node)) := by
    rw [withoutEdges, List.getElem?_map, get]
    rfl
  have retired := slots_retire unlinked node.index.toNat
  rw [if_pos rfl] at retired
  refine ⟨_, retired, ?_⟩
  rw [← generation]
  exact Int.ofNat_lt.2 (Nat.lt_succ_self slot.generation)

end

/-! ### Answers along a run -/

/-- The graph after edits of an empty one. -/
def afterEdits (edits : List Edit) : PortGraph := edits.foldl (fun graph edit => edit.apply graph) empty

/-- The node that an edit adds. -/
def Edit.addedNode? (edit : Edit) (graph : PortGraph) : Option Node :=
  match edit with
  | .addNode inputs outputs => ((PortGraph.addNode inputs outputs).perform graph).1.toOption
  | _ => none

/-- The identity of the edge that an edit adds. -/
def Edit.addedEdge? (edit : Edit) (graph : PortGraph) : Option Nat :=
  match edit with
  | .connect source target kind => ((PortGraph.connect source target kind).perform graph).1.toOption.map Edge.id
  | _ => none

/-- What the edits of a run answer, in order. -/
def answers {α : Type} (answer? : Edit → PortGraph → Option α) (graph : PortGraph) : List Edit → List α
  | [] => []
  | edit :: rest => (answer? edit graph).toList ++ answers answer? (edit.apply graph) rest

/-- Answers do not repeat if each is unknown before its edit and known in all later graphs. -/
theorem Consistent.answers_fresh {α : Type} {answer? : Edit → PortGraph → Option α} (Known : PortGraph → α → Prop)
    (kept : ∀ {graph new : PortGraph} {answer : α}, graph.Later new → Known graph answer → Known new answer)
    (fresh : ∀ {graph : PortGraph} {edit : Edit} {answer : α}, graph.Consistent → answer? edit graph = some answer →
      ¬ Known graph answer ∧ Known (edit.apply graph) answer)
    {graph : PortGraph} (consistent : graph.Consistent) (edits : List Edit) :
    (answers answer? graph edits).Nodup ∧ ∀ answer ∈ answers answer? graph edits, ¬ Known graph answer := by
  induction edits generalizing graph with
  | nil => exact ⟨List.nodup_nil, fun _ member => nomatch member⟩
  | cons edit rest ih =>
    obtain ⟨distinct, unknown⟩ := ih (consistent.edited edit)
    have later : ∀ answer ∈ answers answer? (edit.apply graph) rest, ¬ Known graph answer :=
      fun answer member known => unknown answer member (kept (later_apply edit) known)
    rw [answers]
    cases given : answer? edit graph with
    | none => exact ⟨distinct, later⟩
    | some answer =>
      obtain ⟨before, after⟩ := fresh consistent given
      rw [Option.toList_some, List.singleton_append]
      refine ⟨List.nodup_cons.2 ⟨fun member => unknown answer member after, distinct⟩, ?_⟩
      rintro other (_ | ⟨_, member⟩)
      · exact before
      · exact later other member

theorem Consistent.fresh_addedNode {graph : PortGraph} {edit : Edit} {node : Node} (consistent : graph.Consistent)
    (added : edit.addedNode? graph = some node) : ¬ graph.Issued node ∧ (edit.apply graph).Issued node := by
  cases edit with
  | addNode inputs outputs =>
    rw [Edit.addedNode?] at added
    by_cases negative : inputs < 0 ∨ outputs < 0
    · rw [PortGraph.addNode, if_pos negative] at added
      cases added
    · obtain ⟨first, rfl⟩ := Int.eq_ofNat_of_zero_le (show 0 ≤ inputs by omega)
      obtain ⟨second, rfl⟩ := Int.eq_ofNat_of_zero_le (show 0 ≤ outputs by omega)
      have run : (PortGraph.addNode first second).run graph = .ok graph.nextNode (graph.grown (counted first second)) :=
        graph.run_addNode (counted first second)
      have next : graph.nextNode = node := by
        rw [Change.perform_eq, run] at added
        exact Option.some.inj added
      have grown : Edit.apply (.addNode first second) graph = graph.grown (counted first second) := by
        rw [Edit.apply, Change.perform_eq, run]
      subst next
      refine ⟨consistent.not_issued_nextNode, ?_⟩
      rw [grown]
      apply issued_of_contains
      rw [consistent.contains_grown]
      simp
  | _ => cases added

theorem fresh_addedEdge {graph : PortGraph} {edit : Edit} {id : Nat} (added : edit.addedEdge? graph = some id) :
    ¬ id < graph.nextEdge ∧ id < (edit.apply graph).nextEdge := by
  cases edit with
  | connect source target kind =>
    rw [Edit.addedEdge?, Change.perform_eq] at added
    rw [Edit.apply, Change.perform_eq]
    by_cases fits : source.direction = .outgoing ∧ target.direction = .incoming ∧ graph.HasPort source ∧
        graph.HasPort target
    · obtain ⟨out, into, hasSource, hasTarget⟩ := fits
      rw [run_connect kind out into hasSource hasTarget] at added ⊢
      obtain rfl : graph.nextEdge = id := Option.some.inj added
      exact ⟨Nat.lt_irrefl _, Nat.lt_succ_self _⟩
    · obtain ⟨error, run⟩ := run_connect_of_not kind fits
      rw [run] at added
      cases added
  | _ => cases added

/-! ### Nodes that are not there -/

/-- The failure of whatever needs a node. -/
def absence (node : Node) : Error := .onNode (.shape (.absentNode node)) node

/-- Whatever is asked of the node or of a port of it fails, and so does every change there, with nothing changed. -/
structure Refuses (graph : PortGraph) (node : Node) : Prop where
  numPorts : ∀ direction, graph.numPorts node direction = .error (absence node)
  ports : ∀ direction, graph.ports node direction = .error (absence node)
  edges : ∀ direction kind, graph.edges node direction kind = .error (absence node)
  neighbours : ∀ direction kind, graph.neighbours node direction kind = .error (absence node)
  portEdges : ∀ port : Port, port.node = node → graph.portEdges port = .error (absence node)
  linkedPorts : ∀ port : Port, port.node = node → graph.linkedPorts port = .error (absence node)
  removeNode : (removeNode node).run graph = .error (absence node) graph
  setNumPorts : ∀ inputs outputs, (setNumPorts node inputs outputs).run graph = .error (absence node) graph
  insertPort : ∀ direction offset, (insertPort node direction offset).run graph = .error (absence node) graph
  removePort : ∀ direction offset, (removePort node direction offset).run graph = .error (absence node) graph
  /-- The directions of the two ports, and the source, are looked at before the target. -/
  connect : ∀ source target kind, source.node = node ∨ target.node = node →
    ∃ error cause, (connect source target kind).run graph = .error error graph ∧ error.fault = .shape cause

section

variable {graph : PortGraph} {node : Node}

theorem slot_of_absent (absent : graph.contains node = false) : graph.slot node = .error (absence node) := by
  rw [slot, contains_eq_false_iff.1 absent]
  rfl

theorem checkPort_of_absent {port : Port} (absent : graph.contains port.node = false) :
    graph.checkPort port = .error (absence port.node) := by
  rw [checkPort, PortGraph.numPorts, slot_of_absent absent]
  rfl

theorem shape_of_checkPort {port : Port} {error : Error} (asked : graph.checkPort port = .error error) :
    ∃ cause, error.fault = .shape cause := by
  cases live : graph.contains port.node with
  | false =>
    rw [checkPort_of_absent live, Except.error.injEq] at asked
    subst asked
    exact ⟨_, rfl⟩
  | true =>
    rw [checkPort, numPorts_of_contains live, Outcome.ok_bind] at asked
    split at asked
    · rw [failAt, Except.error.injEq] at asked
      subst asked
      exact ⟨_, rfl⟩
    · cases asked

theorem connect_of_absent (absent : graph.contains node = false) {source target : Port} (kind : EdgeKind)
    (named : source.node = node ∨ target.node = node) :
    ∃ error cause, (connect source target kind).run graph = .error error graph ∧ error.fault = .shape cause := by
  rw [connect]
  split
  · exact ⟨_, _, rfl, rfl⟩
  · cases askSource : graph.checkPort source with
    | error error =>
      obtain ⟨cause, shape⟩ := shape_of_checkPort askSource
      exact ⟨error, cause, Change.run_bind_of_error (Change.run_ask_of_error askSource), shape⟩
    | ok _ =>
      -- the source is there, so that the absent node is that of the target
      have atTarget : target.node = node := by
        rcases named with rfl | atTarget
        · rw [checkPort_of_absent absent] at askSource
          cases askSource
        · exact atTarget
      subst atTarget
      refine ⟨absence target.node, .absentNode target.node, ?_, rfl⟩
      simp only [Change.run_ask_bind, askSource, checkPort_of_absent absent]

theorem refuses_of_absent (absent : graph.contains node = false) : graph.Refuses node where
  numPorts direction := by rw [PortGraph.numPorts, slot_of_absent absent]; rfl
  ports direction := by rw [PortGraph.ports, PortGraph.numPorts, slot_of_absent absent]; rfl
  edges direction kind := by rw [PortGraph.edges, slot_of_absent absent]; rfl
  neighbours direction kind := by rw [PortGraph.neighbours, PortGraph.edges, slot_of_absent absent]; rfl
  portEdges port here := by
    subst here
    rw [PortGraph.portEdges, checkPort_of_absent absent]
    rfl
  linkedPorts port here := by
    subst here
    rw [PortGraph.linkedPorts, PortGraph.portEdges, checkPort_of_absent absent]
    rfl
  removeNode := Change.run_bind_of_error (Change.run_ask_of_error (slot_of_absent absent))
  setNumPorts _ _ := Change.run_bind_of_error (Change.run_ask_of_error (slot_of_absent absent))
  insertPort _ _ := Change.run_bind_of_error (Change.run_ask_of_error (slot_of_absent absent))
  removePort _ _ := Change.run_bind_of_error (Change.run_ask_of_error (slot_of_absent absent))
  connect _ _ kind named := connect_of_absent absent kind named

end

/-! ### Runs -/

theorem Consistent.retired_of_removeNode {graph : PortGraph} (consistent : graph.Consistent) {node : Node}
    {gone : List Edge} (removed : ((removeNode node).perform graph).1 = .ok gone) :
    (Edit.apply (.removeNode node) graph).Retired node := by
  cases live : graph.contains node with
  | true =>
    rw [Edit.apply, Change.perform_eq, run_removeNode consistent live]
    exact retired_withoutNode live
  | false =>
    rw [Change.perform_eq, (refuses_of_absent live).removeNode] at removed
    cases removed

/-- A run of edits gives every node and every edge an identity of its own, and never takes up again a node that it
has removed. -/
structure NeverReuses (edits : List Edit) : Prop where
  nodes : (answers Edit.addedNode? empty edits).Nodup
  edges : (answers Edit.addedEdge? empty edits).Nodup
  removed : ∀ before node after gone, edits = before ++ .removeNode node :: after →
    ((removeNode node).perform (afterEdits before)).1 = .ok gone → ∀ further, further <+: after →
      (afterEdits (before ++ .removeNode node :: further)).contains node = false ∧
        (afterEdits (before ++ .removeNode node :: further)).Refuses node

theorem never_reuses (edits : List Edit) : NeverReuses edits where
  nodes := (consistent_empty.answers_fresh Issued (fun later issued => issued.later later)
    (fun consistent added => consistent.fresh_addedNode added) edits).1
  edges := (consistent_empty.answers_fresh (fun graph id => id < graph.nextEdge)
    (fun later known => Nat.lt_of_lt_of_le known later.nextEdge_le) (fun _ added => fresh_addedEdge added) edits).1
  removed before node _ gone _ success further _ := by
    have retired := (Consistent.of_edits before).retired_of_removeNode success
    have lasting : (afterEdits (before ++ .removeNode node :: further)).Retired node := by
      rw [afterEdits, List.foldl_append, List.foldl_cons]
      exact retired.later (later_of_edits further)
    exact ⟨lasting.not_contains, refuses_of_absent lasting.not_contains⟩

/-! The slot of a removed node is used again, the node is not. -/
example : answers Edit.addedNode? empty [.addNode 0 1, .removeNode ⟨0, 0⟩, .addNode 1 0] = [⟨0, 0⟩, ⟨0, 1⟩] := rfl

end PortGraph

end NestedFlow
