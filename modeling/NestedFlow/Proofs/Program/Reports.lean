import NestedFlow.Extension.Standard
import NestedFlow.Proofs.Program.Wired

/-! What validation has to say about the wiring of a program.

Validation looks at the stored ports and edges again. Of a program whose edges were all checked when they were made it
reports no fault of wiring; the other parts of a report have none of these faults to list.
-/

set_option autoImplicit false

namespace NestedFlow

open Report Program.AgreesOn

/-- Whether a fault says that the stored ports and edges do not fit the operations: a wrong number of ports, an edge
that is not listed at its ends, an edge at no port or at ports of other kinds or types, and a port with more edges than
it takes. -/
def Fault.isWiring : Fault → Bool
  | .shape (.edgeProblem _) | .shape (.portTotal _ _ _ _) => true
  | .shape (.edgeWithoutPort _) | .shape (.edgeKinds _ _ _) => true
  | .shape (.inputLinks _ _ _ count) => 1 < count
  | .mismatch (.edge _ _ _) => true
  | .linearity (.usedTimes _ _ _ _) => true
  | _ => false

/-- A report that lists no fault of wiring. -/
abbrev Report.OmitsWiring (report : Report) : Prop := report.ListsOnly fun error => error.fault.isWiring = false

theorem Fault.isWiring_of_concernsTypes {fault : Fault} (types : fault.concernsTypes = true) :
    fault.isWiring = false := by
  rw [concernsTypes.eq_def] at types
  split at types <;> first | rfl | cases types

namespace Program

variable {program : Program} {node : Node} {op : Op}

/-! ### The tree -/

theorem omitsWiring_rootReport : program.rootReport.OmitsWiring := by
  rw [rootReport]
  refine listsOnly_bind fun parent _ => listsOnly_bind fun edges _ => .append ?_ ?_
  · split
    · exact listsOnly_single rfl
    · exact listsOnly_clean
  · split
    · exact listsOnly_clean
    · exact listsOnly_single rfl

theorem omitsWiring_detachedReport : program.detachedReport.OmitsWiring := by
  rw [detachedReport]
  refine listsOnly_forEach fun node _ => .ite listsOnly_clean (listsOnly_bind fun parent _ => ?_)
  cases parent with
  | none => exact listsOnly_single rfl
  | some parent => exact listsOnly_clean

theorem omitsWiring_parentReport : (program.parentReport node op).OmitsWiring := by
  rw [parentReport]
  refine listsOnly_bind fun parent _ => ?_
  cases parent with
  | none => exact listsOnly_clean
  | some parent => exact listsOnly_bind fun container _ => .ite listsOnly_clean (listsOnly_single rfl)

/-! ### Children -/

theorem omitsWiring_firstChildReport {first : Node} : (program.firstChildReport node op first).OmitsWiring := by
  rw [firstChildReport]
  exact listsOnly_bind fun found _ => .ite listsOnly_clean (listsOnly_single rfl)

theorem omitsWiring_secondChildReport {second : Option Node} :
    (program.secondChildReport node op second).OmitsWiring := by
  cases second with
  | none => exact .ite listsOnly_clean (listsOnly_single rfl)
  | some second => exact listsOnly_bind fun found _ => .ite listsOnly_clean (listsOnly_single rfl)

theorem omitsWiring_boundaryReport {children : List Node} : (program.boundaryReport op children).OmitsWiring := by
  rw [boundaryReport]
  split
  · exact listsOnly_clean
  · refine .also (.also (listsOnly_forEach fun child _ => ?_) (listsOnly_forEach fun child _ => ?_))
      (listsOnly_forEach fun child _ => ?_)
    · refine listsOnly_bind fun found _ => ?_
      split
      · exact .ite listsOnly_clean (listsOnly_single rfl)
      · exact listsOnly_clean
    · refine listsOnly_bind fun found _ => ?_
      split
      · exact .ite listsOnly_clean (listsOnly_single rfl)
      · exact listsOnly_clean
    · refine listsOnly_bind fun found _ => ?_
      split
      · exact listsOnly_single rfl
      · exact listsOnly_single rfl
      · exact listsOnly_clean

theorem omitsWiring_casesReport {sumRows : List Row} {otherInputs outputs : Row} {children : List Node} :
    (program.casesReport node sumRows otherInputs outputs children).OmitsWiring := by
  rw [casesReport]
  refine .also (.ite listsOnly_clean (listsOnly_single rfl)) (listsOnly_forEach fun child _ => ?_)
  refine listsOnly_bind fun found _ => ?_
  split
  · split
    · exact listsOnly_error
    · exact .ite listsOnly_clean (listsOnly_single rfl)
  · exact listsOnly_clean

theorem omitsWiring_variantReport {sumRows : List Row} {otherOutputs : Row} {index : Nat} :
    (program.variantReport node sumRows otherOutputs index).OmitsWiring := by
  rw [variantReport]
  refine listsOnly_bind fun edges _ => ?_
  simp only
  split
  · exact listsOnly_error
  · refine .also ?_ (listsOnly_forEach fun edge _ => listsOnly_bind fun successor _ => ?_)
    · split
      · exact listsOnly_single rfl
      · exact listsOnly_clean
      · exact listsOnly_single rfl
    · split
      · exact listsOnly_clean
      · exact .ite listsOnly_clean (listsOnly_single rfl)

theorem omitsWiring_controlReport {inputs outputs : Row} {children : List Node} :
    (program.controlReport node inputs outputs children).OmitsWiring := by
  cases found : program.exits children with
  | error error =>
    -- a report that breaks off lists nothing
    rw [controlReport, found]
    exact listsOnly_bind fun entry _ => listsOnly_error
  | ok exits =>
    rw [controlReport_of_exits found]
    refine .also (listsOnly_forEach fun child _ => listsOnly_bind fun entry _ => ?_)
      (.also (.when (listsOnly_single rfl))
        (.also (listsOnly_forEach fun exit _ => .ite listsOnly_clean (listsOnly_single rfl))
          (listsOnly_forEach fun child _ => listsOnly_bind fun block _ => ?_)))
    · split
      · exact .ite listsOnly_clean (listsOnly_single rfl)
      · exact listsOnly_clean
    · split
      · exact listsOnly_bind fun count _ => listsOnly_forEach fun index _ => omitsWiring_variantReport
      · exact listsOnly_clean

theorem omitsWiring_kindReport {children : List Node} : (program.kindReport node op children).OmitsWiring := by
  rw [kindReport.eq_def]
  split
  · exact omitsWiring_casesReport
  · exact omitsWiring_controlReport
  · exact listsOnly_clean

theorem omitsWiring_childrenReport : (program.childrenReport node op).OmitsWiring := by
  cases children : program.children node with
  | error error =>
    rw [childrenReport, children]
    exact listsOnly_error
  | ok found =>
    cases found with
    | nil =>
      rw [childrenReport, children]
      exact .ite (listsOnly_single rfl) listsOnly_clean
    | cons first rest =>
      by_cases leaf : op.childRules.allowed = .none
      · rw [childrenReport, children, Outcome.ok_bind]
        simp only [leaf, if_true]
        exact listsOnly_clean
      · rw [childrenReport_of_cons children leaf]
        refine omitsWiring_firstChildReport.also (omitsWiring_secondChildReport.also
          (omitsWiring_boundaryReport.when.also (.also (.when ?_) omitsWiring_kindReport)))
        exact listsOnly_bind fun dependencies _ => .ite (listsOnly_single rfl) listsOnly_clean

/-! ### Operations and types -/

theorem omitsWiring_typeReport {registry : Registry} : (program.typeReport registry node op).OmitsWiring := by
  rw [typeReport]
  refine listsOnly_bind fun scope _ => listsOnly_forEach fun type _ => listsOnly_ofCheck ?_
  exact (failsByTypes_checkPortType registry scope type).imp fun _ held => Fault.isWiring_of_concernsTypes held.concerns

theorem omitsWiring_requirementsReport : program.requirementsReport.OmitsWiring := by
  rw [requirementsReport]
  refine listsOnly_bind fun found _ errors same error mem => ?_
  cases same
  obtain ⟨missing, -, rfl⟩ := List.mem_map.1 mem
  rfl

/-! ### Ports and edges -/

/-- What may be reported about an edge between ports of its kind is that it leads too far. -/
theorem omitsWiring_edgeReport {edge : Edge} {kind : PortKind}
    (source : program.portKind? edge.source = .ok (some kind))
    (target : program.portKind? edge.target = .ok (some kind)) (same : kind.kind = edge.kind) :
    (program.edgeReport edge).OmitsWiring := by
  have tooFar : Fault.isWiring (.shape (localFault edge)) = false := by
    rw [localFault]
    cases edge.kind <;> rfl
  -- equal kinds at both ends rule out all but the last part of the report
  rw [edgeReport, source, Outcome.ok_bind, target, Outcome.ok_bind]
  simp only [same, ne_eq, not_true_eq_false, or_self, and_false, if_false]
  refine listsOnly_clean.bind fun types typesHeld => listsOnly_bind fun inScope _ => ?_
  exact .ite (listsOnly_clean.bind fun place held => typesHeld.append held)
    ((listsOnly_single tooFar).bind fun place held => typesHeld.append held)

/-- What may be reported about a port with at most one edge, where one is needed, is that it has none. -/
theorem omitsWiring_linkReport {direction : Direction} {offset : Nat}
    (limited : ∀ kind, op.portKind? direction offset = some kind → NeedsOne direction kind →
      ∀ edges, program.portEdges ⟨node, direction, offset⟩ = .ok edges → edges.length ≤ 1) :
    (program.linkReport node op direction offset).OmitsWiring := by
  rw [linkReport]
  cases known : op.portKind? direction offset with
  | none => exact listsOnly_clean
  | some kind =>
    cases typed : kind.kind.isTyped with
    | false =>
      simp only [typed, Bool.not_false, if_true]
      exact listsOnly_clean
    | true =>
      simp only [typed, Bool.not_true, Bool.false_eq_true, if_false]
      refine listsOnly_bind fun edges asked => ?_
      cases direction with
      | incoming =>
        have few := limited kind known (needsOne_incoming typed) edges asked
        exact .ite listsOnly_clean (listsOnly_single (decide_eq_false (Nat.not_lt.2 few)))
      | outgoing =>
        simp only
        split
        · rename_i linear
          -- a linear output that is used at most once is either unused, or fine
          have few := limited kind known ⟨typed, fun _ => linear⟩ edges asked
          generalize edges.length = count at few ⊢
          rcases count with _ | _ | count
          · exact listsOnly_single rfl
          · exact listsOnly_clean
          · omega
        · exact listsOnly_clean

namespace Wired

theorem omitsWiring_edgesReport (wired : program.Wired) (consistent : program.Consistent)
    (live : program.graph.contains node = true) : (program.edgesReport node).OmitsWiring := by
  have agrees : program.AgreesOn program.hierarchy.children := consistent
  rw [edgesReport, agrees.graph.edges_eq live, Outcome.ok_bind]
  refine listsOnly_forEach fun edge mem => .ite ?_ listsOnly_clean
  obtain ⟨link, found, -, isEdge⟩ := agrees.graph.mem_edgesOf.1 mem
  obtain ⟨kind, same, ends⟩ := wired.joined edge.id link found
  rw [isEdge]
  exact omitsWiring_edgeReport (agrees.portKind?_eq_ok_some_iff.2 (ends .outgoing))
    (agrees.portKind?_eq_ok_some_iff.2 (ends .incoming)) same

theorem length_portEdges_le_one (wired : program.Wired) (consistent : program.Consistent) {port : Port}
    {kind : PortKind} (known : program.kindAt? port = some kind) (needs : NeedsOne port.direction kind) :
    ∃ edges, program.portEdges port = .ok edges ∧ edges.length ≤ 1 := by
  have agrees : program.AgreesOn program.hierarchy.children := consistent
  refine ⟨_, agrees.portEdges_eq (agrees.hasPort_of_kindAt? known), ?_⟩
  rw [agrees.graph.length_edgesAt]
  exact wired.single port kind known needs

theorem omitsWiring_linksReport (wired : program.Wired) (consistent : program.Consistent) :
    (program.linksReport node).OmitsWiring := by
  have agrees : program.AgreesOn program.hierarchy.children := consistent
  rw [linksReport]
  refine .ite listsOnly_clean (listsOnly_bind fun op isOp => listsOnly_forEach fun direction _ => ?_)
  refine listsOnly_bind fun count _ => listsOnly_forEach fun offset _ => omitsWiring_linkReport ?_
  intro kind known needs edges asked
  have isKind : program.kindAt? ⟨node, direction, offset⟩ = some kind :=
    (kindAt?_of_get? (agrees.op_eq_ok_iff.1 isOp)).trans known
  obtain ⟨found, answered, few⟩ := wired.length_portEdges_le_one consistent isKind needs
  rw [asked, Except.ok.injEq] at answered
  rwa [answered]

/-! ### The whole report -/

/-- The only faults of wiring in a report are those that a rule of an extension raises by itself. -/
theorem listsOnly_validate (wired : program.Wired) (consistent : program.Consistent) (registry : Registry)
    (requirements : Bool) :
    (program.validate registry requirements).ListsOnly fun error =>
      error.fault.isWiring = false ∨ registry.Raises error.fault := by
  have agrees : program.AgreesOn program.hierarchy.children := consistent
  have live : ∀ node ∈ program.hierarchy.descendants program.root, program.graph.contains node = true :=
    fun node mem => agrees.contains_of_below agrees.root_live (agrees.stores.mem_descendants.1 mem)
  -- part by part: the integrity and the numbers of ports are never reported, the rest is about other faults
  rw [validate_of_tree (agrees.descendants_eq agrees.root_live)]
  refine agrees.empty_integrityReport.listsOnly.also ((omitsWiring_rootReport.imp fun _ => .inl).also
    ((omitsWiring_detachedReport.imp fun _ => .inl).also (.also (listsOnly_forEach fun node mem => ?_)
      (.also (listsOnly_forEach fun node mem => ?_) (.when (omitsWiring_requirementsReport.imp fun _ => .inl))))))
  · obtain ⟨op, found⟩ := agrees.get?_of_contains (live node mem)
    rw [nodeReport_of_op (agrees.op_eq_ok_iff.2 found)]
    refine (agrees.empty_portReport found).listsOnly.also ((omitsWiring_parentReport.imp fun _ => .inl).also
      ((omitsWiring_childrenReport.imp fun _ => .inl).also (.also (listsOnly_ofCheck ?_)
        (omitsWiring_typeReport.imp fun _ => .inl))))
    exact (failsOnly_checkOp registry op).imp fun error =>
      Or.imp (fun held => Fault.isWiring_of_concernsTypes held.concerns) Registry.Throws.raises
  · exact ((wired.omitsWiring_edgesReport consistent (live node mem)).also
      (wired.omitsWiring_linksReport consistent)).imp fun _ => .inl

end Wired

/-- What the checks at connecting ensure: edges fit the ports that they join, ports have no more edges than they take,
and validation reports no fault of wiring, unless it is a rule of an extension that fails with it. -/
structure ConnectsAsDeclared (program : Program) : Prop where
  ends : ∀ edge ∈ program.graph.allEdges, ∃ start stop, program.portKind? edge.source = .ok (some start) ∧
    program.portKind? edge.target = .ok (some stop) ∧ start.kind = edge.kind ∧ stop.kind = edge.kind ∧
    (edge.kind.isTyped = true → start.type = stop.type)
  inputs : ∀ (node : Node) offset kind, program.portKind? (node.inputPort offset) = .ok (some kind) →
    kind.kind.isTyped = true → ∃ edges, program.portEdges (node.inputPort offset) = .ok edges ∧ edges.length ≤ 1
  outputs : ∀ (node : Node) offset ty,
    program.portKind? (node.outputPort offset) = .ok (some ⟨.value, some (.value ty)⟩) → ty.isLinear = true →
    ∃ edges, program.portEdges (node.outputPort offset) = .ok edges ∧ edges.length ≤ 1
  reports : ∀ registry requirements errors, program.validate registry requirements = .ok errors →
    ∀ error ∈ errors, error.fault.isWiring = true → registry.Raises error.fault

/-- However a program is edited, what is checked when edges are made is what validation finds later on, unless an
operation is replaced. -/
theorem connects_as_declared (assembled : Assembled program) : program.ConnectsAsDeclared := by
  obtain ⟨consistent, wired⟩ := assembled.consistent_wired
  have agrees : program.AgreesOn program.hierarchy.children := consistent
  constructor
  · intro edge mem
    obtain ⟨⟨id, link⟩, member, rfl⟩ := List.mem_map.1 mem
    obtain ⟨kind, same, ends⟩ := wired.joined id link ((Table.get?_eq_some_iff _ id link).2 member)
    exact ⟨kind, kind, agrees.portKind?_eq_ok_some_iff.2 (ends .outgoing),
      agrees.portKind?_eq_ok_some_iff.2 (ends .incoming), same, same, fun _ => rfl⟩
  · intro node offset kind known typed
    exact wired.length_portEdges_le_one consistent (agrees.portKind?_eq_ok_some_iff.1 known)
      (needsOne_incoming typed)
  · intro node offset ty known linear
    exact wired.length_portEdges_le_one consistent (agrees.portKind?_eq_ok_some_iff.1 known)
      ⟨rfl, fun _ => ⟨rfl, linear⟩⟩
  · intro registry requirements errors found error mem isWiring
    rcases wired.listsOnly_validate consistent registry requirements errors found error mem with other | raised
    · rw [isWiring] at other
      cases other
    · exact raised

/-- The region that passes on a qubit, after an attempt to pass it to a second node as well. -/
def qubitKept : Program :=
  (Edit.connect ⟨1, 0⟩ 0 ⟨3, 0⟩ 0).apply ((Edit.connect ⟨1, 0⟩ 0 ⟨2, 0⟩ 0).apply
    ((Edit.addChild ⟨0, 0⟩ (.noop Standard.qubit)).apply ((Edit.addChild ⟨0, 0⟩ (.output [Standard.qubit])).apply
      ((Edit.addChild ⟨0, 0⟩ (.input [Standard.qubit])).apply
        (ofRoot (.dfg [Standard.qubit] [Standard.qubit] none))))))

theorem connects_as_declared_qubit : qubitKept.graph.edgeCount = 1 ∧ qubitKept.ConnectsAsDeclared := by
  have start : Assembled (ofRoot (.dfg [Standard.qubit] [Standard.qubit] none)) := .ofRoot _
  have assembled : Assembled qubitKept :=
    .edited (.edited (.edited (.edited (.edited start rfl) rfl) rfl) rfl) rfl
  exact ⟨by decide +kernel, connects_as_declared assembled⟩

end Program

end NestedFlow
