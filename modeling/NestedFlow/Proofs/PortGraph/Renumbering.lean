import NestedFlow.Proofs.PortGraph.Growth

/-! Inserting and removing ports of a consistent port graph.

The ports after the place of the change get other numbers, and the recorded ends of their edges follow them. Both
changes are one renumbering, which takes the lists of edges along with the ports.
-/

set_option autoImplicit false

namespace NestedFlow

/-- The new number of a port if those from some number on have moved. -/
def place (first : Nat) (distance offset : Int) : Int := if first ≤ offset then offset + distance else offset

/-- The port after the ports on one side of a node have moved. -/
def Port.shifted (port : Port) (node : Node) (direction : Direction) (first : Nat) (distance : Int) : Port :=
  if port.node = node ∧ port.direction = direction then { port with offset := place first distance port.offset }
  else port

/-- The record of an edge whose ends have moved with their ports. -/
def Link.shifted (link : Link) (node : Node) (direction : Direction) (first : Nat) (distance : Int) : Link :=
  if first ≤ link.offset direction then link.shift node direction distance else link

theorem Port.direction_shifted (port : Port) (node : Node) (direction : Direction) (first : Nat) (distance : Int) :
    (port.shifted node direction first distance).direction = port.direction := by
  rw [Port.shifted]
  split <;> rfl

theorem Link.shift_of_ne {link : Link} {node : Node} {direction : Direction} (distance : Int)
    (elsewhere : link.node direction ≠ node) : link.shift node direction distance = link := by
  cases direction <;> exact if_neg elsewhere

theorem Link.port_shifted (link : Link) (node : Node) (direction : Direction) (first : Nat) (distance : Int)
    (side : Direction) :
    (link.shifted node direction first distance).port side = (link.port side).shifted node direction first distance := by
  by_cases moved : link.node direction = node ∧ (first : Int) ≤ link.offset direction
  · obtain ⟨rfl, after⟩ := moved
    rw [Link.shifted, if_pos after]
    cases direction <;> cases side <;>
      simp_all [Link.shift, Port.shifted, Link.port, Link.node, Link.offset, place]
  · -- the end is at another node, or before the ports that move
    have sameLink : link.shifted node direction first distance = link := by
      rw [Link.shifted]
      split
      · rename_i after
        exact Link.shift_of_ne distance fun here => moved ⟨here, after⟩
      · rfl
    have samePort : (link.port side).shifted node direction first distance = link.port side := by
      rw [Port.shifted]
      split
      · rename_i here
        obtain ⟨here, rfl⟩ := here
        have still : place first distance (link.port side).offset = (link.port side).offset :=
          if_neg fun after => moved ⟨here, after⟩
        rw [still]
      · rfl
    rw [sameLink, samePort]

namespace PortGraph

/-! ### Recorded ends -/

/-- The graph after the recorded ends of some edges have followed their ports. -/
def followed (graph : PortGraph) (node : Node) (direction : Direction) (distance : Int) (ids : List Nat) : PortGraph :=
  { graph with
    links := ids.foldl (fun links id => links.modify id fun link => link.shift node direction distance) graph.links }

section

variable {node : Node} {direction : Direction} {distance : Int}

theorem followed_append (graph : PortGraph) (first second : List Nat) :
    graph.followed node direction distance (first ++ second) =
      (graph.followed node direction distance first).followed node direction distance second := by
  simp only [followed, List.foldl_append]

theorem foldl_followed (graph : PortGraph) (ids : List Nat) :
    ids.foldl (fun graph id => graph.followed node direction distance [id]) graph =
      graph.followed node direction distance ids := by
  induction ids generalizing graph with
  | nil => rfl
  | cons id rest ih => rw [List.foldl_cons, ih, ← followed_append, List.singleton_append]

theorem get?_followed {graph : PortGraph} {ids : List Nat} (distinct : ids.Nodup) (id : Nat) :
    (graph.followed node direction distance ids).links.get? id =
      if id ∈ ids then (graph.links.get? id).map fun link => link.shift node direction distance
      else graph.links.get? id := by
  have keys : ids.map (fun id => id) = ids := List.map_id' ids
  split
  · rename_i among
    exact Table.get?_foldl_modify_of_mem (fun _ (link : Link) => link.shift node direction distance)
      (by rwa [keys]) among
  · rename_i apart
    exact Table.get?_foldl_modify_of_not_mem (fun _ (link : Link) => link.shift node direction distance)
      (by rwa [keys])

theorem run_shiftAll {graph : PortGraph} {ports : List (List Nat)} (distinct : ports.flatten.Nodup)
    (recorded : ∀ id ∈ ports.flatten, ∃ link, graph.links.get? id = some link) :
    (shiftAll node direction distance ports).run graph =
      .ok () (graph.followed node direction distance ports.flatten) := by
  rw [shiftAll, ← foldl_followed]
  apply Change.run_forM
  intro before id after split
  have member : id ∈ ports.flatten := by
    rw [split]
    exact List.mem_append_right before List.mem_cons_self
  rw [split] at distinct
  obtain ⟨link, found⟩ := recorded id member
  -- no earlier round has moved this edge
  have still : (graph.followed node direction distance before).links.get? id = some link := by
    rw [get?_followed (List.nodup_append.1 distinct).1, if_neg (not_mem_of_split distinct), found]
  have asked : (graph.followed node direction distance before).link id = .ok link :=
    Outcome.require_eq_ok_iff.2 still
  have step : (graph.followed node direction distance before).followed node direction distance [id] =
      { graph.followed node direction distance before with
        links := (graph.followed node direction distance before).links.insert id
          (link.shift node direction distance) } := by
    rw [followed, List.foldl_cons, List.foldl_nil, Table.modify_of_get? still]
  rw [foldl_followed, step, Change.run_ask_bind, asked]
  rfl

end

/-! ### Renumbering -/

/-- The ports from some number on move, and what is recorded of their edges follows. -/
def renumbered (graph : PortGraph) (node : Node) (direction : Direction) (change : List (List Nat) → List (List Nat))
    (first : Nat) (distance : Int) : PortGraph :=
  (graph.withPorts node direction change).followed node direction distance
    ((graph.portsOf node direction).drop first).flatten

/-- A change of a list of ports that takes every linked port to its new place, and adds only unlinked ones. -/
structure Moves (change : List (List Nat) → List (List Nat)) (ports : List (List Nat)) (first : Nat)
    (distance : Int) : Prop where
  mem_iff : ∀ (id offset : Nat), id ∈ ((change ports)[offset]?).getD [] ↔
    ∃ old : Nat, id ∈ (ports[old]?).getD [] ∧ place first distance old = offset
  kept : ∀ listed ∈ change ports, listed = [] ∨ listed ∈ ports
  nonnegative : 0 ≤ first + distance

theorem moves_insertIdx {ports : List (List Nat)} {offset : Nat} (inside : offset ≤ ports.length) :
    Moves (fun ports => ports.insertIdx offset []) ports offset 1 where
  mem_iff id position := by
    rw [List.getElem?_insertIdx]
    constructor
    · intro listed
      rcases Nat.lt_trichotomy position offset with before | here | after
      · rw [if_pos before] at listed
        exact ⟨position, listed, if_neg (by omega)⟩
      · rw [if_neg (by omega), if_pos here] at listed
        split at listed <;> cases listed
      · rw [if_neg (by omega), if_neg (by omega)] at listed
        refine ⟨position - 1, listed, ?_⟩
        rw [place, if_pos (by omega)]
        omega
    · rintro ⟨old, listed, moved⟩
      rw [place] at moved
      by_cases before : old < offset
      · rw [if_neg (by omega), Int.natCast_inj] at moved
        subst moved
        rwa [if_pos before]
      · rw [if_pos (by omega)] at moved
        rw [if_neg (by omega), if_neg (by omega)]
        have back : position - 1 = old := by omega
        rwa [back]
  kept listed member := ((List.mem_insertIdx inside).1 member)
  nonnegative := by omega

theorem moves_eraseIdx {ports : List (List Nat)} {offset : Nat} (unlinked : (ports[offset]?).getD [] = []) :
    Moves (fun ports => ports.eraseIdx offset) ports (offset + 1) (-1) where
  mem_iff id position := by
    rw [List.getElem?_eraseIdx]
    constructor
    · intro listed
      split at listed
      · exact ⟨position, listed, if_neg (by omega)⟩
      · refine ⟨position + 1, listed, ?_⟩
        rw [place, if_pos (by omega)]
        omega
    · rintro ⟨old, listed, moved⟩
      rw [place] at moved
      rcases Nat.lt_trichotomy old offset with before | here | after
      · rw [if_neg (by omega), Int.natCast_inj] at moved
        subst moved
        rwa [if_pos before]
      · -- no edge is at the port that goes
        rw [here, unlinked] at listed
        cases listed
      · rw [if_pos (by omega)] at moved
        have further : position + 1 = old := by omega
        rwa [if_neg (by omega), further]
  kept listed member := .inr (List.mem_of_mem_eraseIdx member)
  nonnegative := by omega

section

variable {graph : PortGraph} {node : Node} {direction : Direction} {change : List (List Nat) → List (List Nat)}
  {first : Nat} {distance : Int}

theorem mem_flatten_drop {id : Nat} :
    id ∈ ((graph.portsOf node direction).drop first).flatten ↔
      ∃ offset : Nat, first ≤ offset ∧ id ∈ graph.idsAt ⟨node, direction, offset⟩ := by
  rw [List.mem_flatten]
  constructor
  · rintro ⟨listed, member, mem⟩
    obtain ⟨further, get⟩ := List.mem_iff_getElem?.1 member
    rw [List.getElem?_drop] at get
    refine ⟨first + further, Nat.le_add_right first further, ?_⟩
    rw [idsAt_natCast, get]
    exact mem
  · rintro ⟨offset, after, mem⟩
    rw [idsAt_natCast] at mem
    cases get : (graph.portsOf node direction)[offset]? with
    | none =>
      rw [get] at mem
      cases mem
    | some listed =>
      rw [get] at mem
      refine ⟨listed, List.mem_iff_getElem?.2 ⟨offset - first, ?_⟩, mem⟩
      rw [List.getElem?_drop, ← get]
      congr 1
      omega

theorem idsAt_renumbered (port : Port) :
    (graph.renumbered node direction change first distance).idsAt port =
      (graph.withPorts node direction change).idsAt port := rfl

theorem Consistent.nodup_flatten_drop (consistent : graph.Consistent) :
    ((graph.portsOf node direction).drop first).flatten.Nodup := by
  have whole := consistent.nodup_flatten_portsOf node direction
  rw [← List.take_append_drop first (graph.portsOf node direction), List.flatten_append, List.nodup_append] at whole
  exact whole.2.1

/-- Exactly the edges at ports from the first one on have their ends moved. -/
theorem Consistent.links_renumbered (consistent : graph.Consistent) (id : Nat) :
    (graph.renumbered node direction change first distance).links.get? id =
      (graph.links.get? id).map fun link => link.shifted node direction first distance := by
  rw [renumbered, get?_followed consistent.nodup_flatten_drop]
  change (if _ then (graph.links.get? id).map _ else graph.links.get? id) = _
  cases found : graph.links.get? id with
  | none => rw [Option.map_none, Option.map_none, ite_self]
  | some link =>
    have atEnd := consistent.mem_idsAt found direction
    rw [Option.map_some, Option.map_some, Link.shifted]
    split
    · rename_i among
      obtain ⟨offset, after, listed⟩ := mem_flatten_drop.1 among
      have here : link.port direction = ⟨node, direction, offset⟩ := consistent.port_unique atEnd listed rfl
      rw [Link.port, Port.mk.injEq] at here
      rw [if_pos (by omega)]
    · rename_i apart
      by_cases elsewhere : link.node direction = node
      · -- an end at the node that is not among the moved ones comes before them
        rw [if_neg]
        intro after
        apply apart
        refine mem_flatten_drop.2 ⟨(link.offset direction).toNat, by omega, ?_⟩
        rwa [Int.toNat_of_nonneg (by omega), ← elsewhere]
      · rw [Link.shift_of_ne distance elsewhere, ite_self]

/-- What is listed at a port afterwards was listed at the port that has become it. -/
theorem mem_idsAt_renumbered (live : graph.contains node = true)
    (moves : Moves change (graph.portsOf node direction) first distance) {id : Nat} {port : Port} :
    id ∈ (graph.renumbered node direction change first distance).idsAt port ↔
      ∃ old, id ∈ graph.idsAt old ∧ old.shifted node direction first distance = port := by
  rw [idsAt_renumbered, idsAt, portsOf_withPorts _ _ live]
  by_cases here : port.node = node ∧ port.direction = direction
  · obtain ⟨rfl, rfl⟩ := here
    constructor
    · intro listed
      split at listed
      · cases listed
      · rw [if_pos ⟨rfl, rfl⟩] at listed
        obtain ⟨offset, before, moved⟩ := (moves.mem_iff id port.offset.toNat).1 listed
        refine ⟨⟨port.node, port.direction, offset⟩, by rwa [idsAt_natCast], ?_⟩
        rw [Port.shifted, if_pos ⟨rfl, rfl⟩, moved, Int.toNat_of_nonneg (by omega)]
    · rintro ⟨old, listed, moved⟩
      -- a shift leaves a port at its node and on its side, so only the number has changed
      obtain ⟨lower, -⟩ := hasPort_of_mem_idsAt listed
      have there : old.node = port.node ∧ old.direction = port.direction := by
        rw [Port.shifted] at moved
        split at moved
        · assumption
        · rw [moved]
          exact ⟨rfl, rfl⟩
      rw [Port.shifted, if_pos there] at moved
      have number : place first distance old.offset = port.offset := congrArg Port.offset moved
      have bound := moves.nonnegative
      have inside : 0 ≤ port.offset := by
        rw [← number, place]
        split <;> omega
      rw [idsAt, if_neg (by omega), there.1, there.2] at listed
      rw [if_neg (by omega), if_pos ⟨rfl, rfl⟩]
      refine (moves.mem_iff id _).2 ⟨old.offset.toNat, listed, ?_⟩
      rw [Int.toNat_of_nonneg lower, Int.toNat_of_nonneg inside, number]
  · -- the ports of other nodes, and those on the other side, stay
    rw [if_neg here, ← idsAt]
    constructor
    · intro listed
      exact ⟨port, listed, if_neg here⟩
    · rintro ⟨old, listed, rfl⟩
      rw [Port.shifted] at here ⊢
      split
      · rename_i there
        rw [if_pos there] at here
        exact absurd there here
      · exact listed

theorem Consistent.renumbered (consistent : graph.Consistent) (live : graph.contains node = true)
    (moves : Moves change (graph.portsOf node direction) first distance) :
    (graph.renumbered node direction change first distance).Consistent where
  toTidy := by
    have tidy := consistent.toTidy.withPorts direction change live
    exact ⟨tidy.vacant, tidy.free_nodup, tidy.free_iff, tidy.nodeCount_eq⟩
  listed_iff id port := by
    rw [mem_idsAt_renumbered live moves, consistent.links_renumbered]
    constructor
    · rintro ⟨old, listed, rfl⟩
      obtain ⟨link, found, atPort⟩ := (consistent.listed_iff id old).1 listed
      refine ⟨_, by rw [found, Option.map_some], ?_⟩
      rw [Port.direction_shifted, Link.port_shifted, atPort]
    · rintro ⟨moved, found, atPort⟩
      obtain ⟨link, recorded, rfl⟩ := Option.map_eq_some_iff.1 found
      rw [Link.port_shifted] at atPort
      exact ⟨link.port port.direction, consistent.mem_idsAt recorded port.direction, atPort⟩
  distinct port := by
    rw [idsAt_renumbered, idsAt, portsOf_withPorts _ _ live]
    split
    · exact List.nodup_nil
    · have own := consistent.distinct port
      rw [idsAt, if_neg ‹_›] at own
      split
      · -- each list at the node is empty or one of the lists before
        cases get : (change (graph.portsOf node direction))[port.offset.toNat]? with
        | none => exact List.nodup_nil
        | some listed =>
          rcases moves.kept listed (List.mem_of_getElem? get) with rfl | member
          · exact List.nodup_nil
          · exact (List.nodup_flatten.1 (consistent.nodup_flatten_portsOf node direction)).1 listed member
      · exact own
  fresh id link found := by
    rw [consistent.links_renumbered] at found
    obtain ⟨old, recorded, -⟩ := Option.map_eq_some_iff.1 found
    exact consistent.fresh id old recorded

end

/-! ### The two changes -/

theorem run_shiftAll_ports {graph : PortGraph} (consistent : graph.Consistent) (node : Node) (direction : Direction)
    (change : List (List Nat) → List (List Nat)) (first : Nat) (distance : Int) :
    (shiftAll node direction distance ((graph.portsOf node direction).drop first)).run
        (graph.withPorts node direction change) =
      .ok () (graph.renumbered node direction change first distance) := by
  apply run_shiftAll
  · exact consistent.nodup_flatten_drop
  · intro id mem
    obtain ⟨offset, -, listed⟩ := mem_flatten_drop.1 mem
    obtain ⟨link, found, -⟩ := (consistent.listed_iff id _).1 listed
    exact ⟨link, found⟩

/-- The graph with an unlinked port more; the ports from there on are one further. -/
def opened (graph : PortGraph) (node : Node) (direction : Direction) (offset : Nat) : PortGraph :=
  graph.renumbered node direction (fun ports => ports.insertIdx offset []) offset 1

/-- The graph with a port less; the ports after it are one back. -/
def closed (graph : PortGraph) (node : Node) (direction : Direction) (offset : Nat) : PortGraph :=
  graph.renumbered node direction (fun ports => ports.eraseIdx offset) (offset + 1) (-1)

section

variable {graph : PortGraph} {node : Node} {direction : Direction} {offset : Nat} (consistent : graph.Consistent)

include consistent

theorem Consistent.opened (live : graph.contains node = true)
    (inside : offset ≤ (graph.portsOf node direction).length) :
    (graph.opened node direction offset).Consistent := consistent.renumbered live (moves_insertIdx inside)

theorem run_insertPort (live : graph.contains node = true) (inside : offset ≤ (graph.portsOf node direction).length) :
    (insertPort node direction offset).run graph =
      .ok ⟨node, direction, offset⟩ (graph.opened node direction offset) := by
  obtain ⟨slot, found⟩ := contains_iff.1 live
  have shifted := run_shiftAll_ports consistent node direction (fun ports => ports.insertIdx offset []) offset 1
  rw [insertPort, Change.run_ask_bind, slot_of_slot? found]
  simp only [← portsOf_of_slot? found]
  rw [if_neg (by omega)]
  exact (Change.run_bind_of_ok (run_setPorts ..)).trans (Change.run_bind_of_ok shifted)

variable (has : graph.HasPort ⟨node, direction, offset⟩) (unlinked : graph.idsAt ⟨node, direction, offset⟩ = [])

include has unlinked

theorem Consistent.closed : (graph.closed node direction offset).Consistent :=
  consistent.renumbered (contains_of_hasPort has) (moves_eraseIdx (by rw [← idsAt_natCast, unlinked]))

theorem run_removePort :
    (removePort node direction offset).run graph = .ok () (graph.closed node direction offset) := by
  obtain ⟨slot, found⟩ := contains_iff.1 (contains_of_hasPort has)
  have shifted := run_shiftAll_ports consistent node direction (fun ports => ports.eraseIdx offset) (offset + 1) (-1)
  have empty : (((graph.portsOf node direction)[(offset : Int).toNat]?).getD []).isEmpty = true := by
    rw [Int.toNat_natCast, ← idsAt_natCast, unlinked, List.isEmpty_nil]
  rw [removePort, Change.run_ask_bind, slot_of_slot? found]
  simp only [← portsOf_of_slot? found]
  rw [Change.run_ask_bind, checkPort_eq_ok_iff.2 has, empty]
  exact (Change.run_bind_of_ok (run_setPorts ..)).trans shifted

end

theorem Consistent.settles_insertPort {graph : PortGraph} (consistent : graph.Consistent) (node : Node)
    (direction : Direction) (offset : Int) : (insertPort node direction offset).Settles Consistent graph := by
  by_cases fits : graph.contains node = true ∧ 0 ≤ offset ∧ offset ≤ (graph.portsOf node direction).length
  · obtain ⟨live, natural, inside⟩ := fits
    obtain ⟨position, rfl⟩ := Int.eq_ofNat_of_zero_le natural
    have within := Int.ofNat_le.1 inside
    exact Change.settles_of_ok (run_insertPort consistent live within) (consistent.opened live within)
  · apply Change.settles_ask_bind
    intro slot found
    have held := slot_eq_ok_iff.1 found
    have live := contains_iff.2 ⟨slot, held⟩
    rw [and_iff_right live] at fits
    simp only [← portsOf_of_slot? held]
    rw [if_pos (by omega)]
    exact Change.settles_of_error rfl

theorem Consistent.settles_removePort {graph : PortGraph} (consistent : graph.Consistent) (node : Node)
    (direction : Direction) (offset : Int) : (removePort node direction offset).Settles Consistent graph := by
  by_cases fits : graph.HasPort ⟨node, direction, offset⟩ ∧ graph.idsAt ⟨node, direction, offset⟩ = []
  · obtain ⟨has, unlinked⟩ := fits
    obtain ⟨position, rfl⟩ := Int.eq_ofNat_of_zero_le has.1
    exact Change.settles_of_ok (run_removePort consistent has unlinked) (consistent.closed has unlinked)
  · apply Change.settles_ask_bind
    intro slot found
    simp only [← portsOf_of_slot? (slot_eq_ok_iff.1 found)]
    apply Change.settles_ask_bind
    intro _ checked
    have has := checkPort_eq_ok_iff.1 checked
    have linked : (((graph.portsOf node direction)[offset.toNat]?).getD []).isEmpty = false := by
      rw [List.isEmpty_eq_false_iff]
      intro unlinked
      exact fits ⟨has, (if_neg (Int.not_lt.2 has.1)).trans unlinked⟩
    rw [linked]
    exact Change.settles_of_error rfl

end PortGraph

end NestedFlow
