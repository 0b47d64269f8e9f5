import NestedFlow.Proofs.Program.Accepted

/-! Programs whose edges were all checked when they were made.

As long as no operation is replaced, an edge keeps joining the ports that it was made for: all that happens to it
afterwards is that it goes away.
-/

set_option autoImplicit false

namespace NestedFlow.Program

open AgreesOn

variable {program old new : Program}

/-- Every edge joins ports of one kind, which is its own, and a port that takes a single edge has no more. -/
structure Wired (program : Program) : Prop where
  joined : ∀ id link, program.graph.links.get? id = some link →
    ∃ kind, kind.kind = link.kind ∧ ∀ direction, program.kindAt? (link.port direction) = some kind
  single : ∀ port kind, program.kindAt? port = some kind → NeedsOne port.direction kind →
    (program.graph.idsAt port).length ≤ 1

/-- The ends of an edge are ports of one kind, which is its own. -/
theorem Wired.ends (wired : program.Wired) {edge : Edge} (mem : edge ∈ program.graph.allEdges) :
    ∃ kind, kind.kind = edge.kind ∧ ∀ direction, program.kindAt? (edge.port direction) = some kind := by
  obtain ⟨link, recorded, same⟩ := PortGraph.mem_allEdges.1 mem
  obtain ⟨kind, isKind, ends⟩ := wired.joined edge.id link recorded
  rw [same]
  simp only [Link.port_edge]
  exact ⟨kind, isKind, ends⟩

theorem Wired.edge_unique (wired : program.Wired) (consistent : program.graph.Consistent) {port : Port}
    {kind : PortKind} (known : program.kindAt? port = some kind) (needs : NeedsOne port.direction kind)
    {first second : Edge} (isFirst : first ∈ program.graph.edgesAt port)
    (isSecond : second ∈ program.graph.edgesAt port) : first = second := by
  have few := wired.single port kind known needs
  rw [← consistent.length_edgesAt] at few
  obtain ⟨only, single⟩ := List.length_eq_one_iff.1 (Nat.le_antisymm few (List.length_pos_of_mem isFirst))
  rw [single, List.mem_singleton] at isFirst isSecond
  rw [isFirst, isSecond]

/-! ### Losing edges -/

/-- The edges of one program are among those of another, and their ends have the same kinds in both. -/
structure Narrows (old new : Program) : Prop where
  links : ∀ id link, new.graph.links.get? id = some link → old.graph.links.get? id = some link
  listed : ∀ port, (new.graph.idsAt port).Sublist (old.graph.idsAt port)
  kinds : ∀ port id, id ∈ new.graph.idsAt port → new.kindAt? port = old.kindAt? port

theorem Wired.narrowed (wired : old.Wired) (narrows : old.Narrows new) (consistent : new.graph.Consistent) :
    new.Wired where
  joined id link found := by
    obtain ⟨kind, same, ends⟩ := wired.joined id link (narrows.links id link found)
    refine ⟨kind, same, fun direction => ?_⟩
    rw [narrows.kinds _ id (consistent.mem_idsAt found direction), ends]
  single port kind known needs := by
    cases ids : new.graph.idsAt port with
    | nil => exact Nat.zero_le 1
    | cons id rest =>
      -- a port that still lists an edge has the kind that it had
      have unchanged := narrows.kinds port id (by rw [ids]; exact List.mem_cons_self)
      rw [← ids]
      exact (narrows.listed port).length_le.trans (wired.single port kind (unchanged.symm.trans known) needs)

theorem narrows_of_graph_eq (graph : new.graph = old.graph) (kinds : ∀ port, new.kindAt? port = old.kindAt? port) :
    old.Narrows new where
  links id link found := by rwa [graph] at found
  listed port := by rw [graph]
  kinds port _ _ := kinds port

theorem narrows_grown (consistent : program.graph.Consistent) (op : Op) (hierarchy : Hierarchy) :
    program.Narrows { program.grown op with hierarchy := hierarchy } where
  links id link found := by
    change (program.graph.grown op.portCount).links.get? id = some link at found
    rwa [PortGraph.Consistent.links_grown] at found
  listed port := by
    change ((program.graph.grown op.portCount).idsAt port).Sublist _
    rw [consistent.idsAt_grown]
  kinds port id listed := by
    change id ∈ (program.graph.grown op.portCount).idsAt port at listed
    rw [consistent.idsAt_grown] at listed
    -- nothing is listed at the new node, which was not there before
    have apart : port.node ≠ program.graph.nextNode := by
      intro same
      have live := PortGraph.contains_of_mem_idsAt listed
      rw [same, consistent.contains_nextNode] at live
      cases live
    change ((program.ops.insert program.graph.nextNode op).get? port.node).bind _ = _
    rw [Table.get?_insert_eq, if_neg apart]
    rfl

theorem narrows_withoutEdges (ids : List Nat) :
    program.Narrows { program with graph := program.graph.withoutEdges ids } where
  links id link found := by
    change (program.graph.links.eraseAll ids).get? id = some link at found
    rw [Table.get?_eraseAll] at found
    split at found
    · cases found
    · exact found
  listed port := by
    rw [PortGraph.idsAt_withoutEdges]
    exact List.filter_sublist
  kinds _ _ _ := rfl

theorem narrows_withoutNode (consistent : program.graph.Consistent) {node : Node}
    (live : program.graph.contains node = true) (hierarchy : Hierarchy) :
    program.Narrows (program.withoutNode node hierarchy) where
  links := (narrows_withoutEdges (program.graph.incident node)).links
  listed port := by
    change ((program.graph.withoutNode node).idsAt port).Sublist _
    rw [consistent.idsAt_withoutNode live]
    exact (narrows_withoutEdges (program.graph.incident node)).listed port
  kinds port id listed := by
    change id ∈ (program.graph.withoutNode node).idsAt port at listed
    rw [consistent.idsAt_withoutNode live] at listed
    change ((program.ops.erase node).get? port.node).bind _ = _
    rw [Table.get?_erase_eq, if_neg (consistent.unlinked_withoutEdges port id listed)]
    rfl

theorem narrows_declared {node : Node} {op declared : Op} {delta : ExtensionSet}
    (found : program.ops.get? node = some op) (isDeclared : op.withDelta? delta = some declared) :
    program.Narrows { program with ops := program.ops.insert node declared } := by
  refine narrows_of_graph_eq rfl fun port => ?_
  change ((program.ops.insert node declared).get? port.node).bind _ = (program.ops.get? port.node).bind _
  rw [Table.get?_insert_eq]
  split
  · rename_i here
    rw [here, found, Option.bind_some, Option.bind_some, Op.portKind?_withDelta? isDeclared]
  · rfl

/-! ### Gaining edges -/

theorem kind_eq_of_types {port other : Port} {kind known : PortKind} (atPort : program.kindAt? port = some kind)
    (atOther : program.kindAt? other = some known) (kinds : kind.kind = known.kind)
    (types : kind.kind.isTyped = true → kind.type = known.type) : kind = known := by
  have same : kind.type = known.type := by
    cases typed : kind.kind.isTyped with
    | true => exact types typed
    | false =>
      -- kinds without types have none at either end
      obtain ⟨op, -, isKind⟩ := kindAt?_eq_some_iff.1 atPort
      obtain ⟨another, -, isKnown⟩ := kindAt?_eq_some_iff.1 atOther
      rw [Op.type_eq_none_of_portKind? isKind typed, Op.type_eq_none_of_portKind? isKnown (kinds ▸ typed)]
  cases kind
  cases known
  rw [PortKind.mk.injEq]
  exact ⟨kinds, same⟩

/-- An edge that passes the checks leaves a program as it should be: it joins ports of one kind, and where it has to be
the only edge there was none. -/
theorem Wired.linked (wired : program.Wired) (consistent : program.Consistent) {source target : Port} {kind : EdgeKind}
    (out : source.direction = .outgoing) (into : target.direction = .incoming)
    (checked : program.checkConnection source target = .ok kind) :
    { program with graph := program.graph.linked source target kind }.Wired := by
  have agrees : program.AgreesOn program.hierarchy.children := consistent
  obtain ⟨origin, goal, atSource, atTarget, isKind, goalKind, taken, driven⟩ := checkConnection_spec checked
  have hasSource := agrees.hasPort_of_kindAt? atSource
  have hasTarget := agrees.hasPort_of_kindAt? atTarget
  obtain rfl : origin = goal := kind_eq_of_types atSource atTarget (isKind.trans goalKind.symm) fun typed =>
    (taken (isKind ▸ typed)).1
  -- the checks ask for the edges of a port, the invariant counts their numbers in the list of the port
  have unlisted : ∀ {port : Port}, program.graph.HasPort port → program.graph.portEdges port = .ok [] →
      program.graph.idsAt port = [] := by
    intro port has none
    rw [agrees.graph.portEdges_eq has, Except.ok.injEq] at none
    rw [← List.length_eq_zero_iff, ← agrees.graph.length_edgesAt, none, List.length_nil]
  constructor
  · intro id link found
    change (program.graph.linked source target kind).links.get? id = some link at found
    rw [PortGraph.links_linked] at found
    split at found
    · rw [Option.some.injEq] at found
      refine ⟨origin, by rw [isKind, ← found], fun direction => ?_⟩
      rcases source with ⟨node, side, offset⟩
      rcases target with ⟨node', side', offset'⟩
      cases out
      cases into
      rw [← found]
      cases direction with
      | incoming => exact atTarget
      | outgoing => exact atSource
    · exact wired.joined id link found
  · intro port known isKnown needs
    change program.kindAt? port = some known at isKnown
    change ((program.graph.linked source target kind).idsAt port).length ≤ 1
    rw [PortGraph.idsAt_linked kind (PortGraph.ne_of_sides out into) hasSource hasTarget]
    split
    · rename_i isEnd
      -- an end of the new edge that needs to be single has been checked to be free
      have none : program.graph.idsAt port = [] := by
        rcases isEnd with rfl | rfl
        · obtain rfl : known = origin := Option.some.inj (isKnown.symm.trans atSource)
          obtain ⟨isValue, linear⟩ := needs.2 out
          exact unlisted hasSource (driven ⟨isKind.symm.trans isValue, linear⟩)
        · obtain rfl : known = origin := Option.some.inj (isKnown.symm.trans atTarget)
          exact unlisted hasTarget (taken (isKind ▸ needs.1)).2
      rw [none]
      exact Nat.le_refl 1
    · exact wired.single port known isKnown needs

/-! ### Programs that keep their operations -/

theorem Wired.transition (wired : old.Wired) (before : old.Consistent) (transition : Transition old new)
    (after : new.Consistent) : new.Wired := by
  have agrees : old.AgreesOn old.hierarchy.children := before
  have agreesNew : new.AgreesOn new.hierarchy.children := after
  cases transition with
  | grow op hierarchy => exact wired.narrowed (narrows_grown agrees.graph op hierarchy) agreesNew.graph
  | move hierarchy => exact wired.narrowed (narrows_of_graph_eq rfl fun _ => rfl) agreesNew.graph
  | remove live hierarchy => exact wired.narrowed (narrows_withoutNode agrees.graph live hierarchy) agreesNew.graph
  | link out into checked => exact wired.linked before out into checked
  | unlink ids => exact wired.narrowed (narrows_withoutEdges ids) agreesNew.graph
  | declare found isDeclared => exact wired.narrowed (narrows_declared found isDeclared) agreesNew.graph
  | describe metadata => exact wired.narrowed (narrows_of_graph_eq rfl fun _ => rfl) agreesNew.graph

theorem wired_ofRoot (op : Op) : (ofRoot op).Wired where
  joined id link found := by
    change (PortGraph.empty.grown op.portCount).links.get? id = some link at found
    rw [PortGraph.Consistent.links_grown] at found
    cases found
  single port kind _ _ := by
    rw [ofRoot_graph, PortGraph.consistent_empty.idsAt_grown, PortGraph.idsAt_empty]
    exact Nat.zero_le 1

/-- The programs that come about from a single node by edits that replace no operation. -/
inductive Assembled : Program → Prop where
  | ofRoot (op : Op) : Assembled (ofRoot op)
  | edited {program : Program} (assembled : Assembled program) {edit : Edit} (keeps : edit.replaces = false) :
    Assembled (edit.apply program)

theorem Assembled.edits (assembled : Assembled program) {edits : List Edit}
    (keep : ∀ edit ∈ edits, edit.replaces = false) : Assembled (program.edited edits) := by
  induction edits generalizing program with
  | nil => exact assembled
  | cons edit rest ih =>
    rw [List.forall_mem_cons] at keep
    exact ih (.edited assembled keep.1) keep.2

theorem Assembled.consistent_wired (assembled : Assembled program) : program.Consistent ∧ program.Wired := by
  induction assembled with
  | ofRoot op => exact ⟨(ofRoot_agrees op).consistent, wired_ofRoot op⟩
  | edited _ keeps ih =>
    exact (ih.1.follows keeps).preserves
      (fun _ _ before wired transition after => wired.transition before transition after) ih.1 ih.2

end NestedFlow.Program
