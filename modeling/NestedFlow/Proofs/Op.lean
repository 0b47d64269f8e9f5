import NestedFlow.Proofs.Op.Layout

/-! Operations: what the kind of a port tells, and which operations declare requirements. -/

set_option autoImplicit false

namespace NestedFlow.Op

variable {op : Op} {direction : Direction}

/-- The value ports come first, and carry the types of the signature. -/
theorem portKind?_eq_value_iff {offset : Nat} {type : Option PortType} :
    op.portKind? direction offset = some ⟨.value, type⟩ ↔
      ∃ ty, (op.valueTypes direction)[offset]? = some ty ∧ type = some (.value ty) := by
  rw [portKind?_natCast]
  constructor
  · intro member
    rcases layout_cases member with ⟨ty, carried, same⟩ | ⟨held, -, -, same⟩ | ⟨other, -, isOther, same⟩
    · cases same
      exact ⟨ty, carried, rfl⟩
    · cases same
    · cases same
      rcases otherPorts_kind isOther with isOrder | isControl
      · cases isOrder
      · cases isControl
  · rintro ⟨ty, carried, rfl⟩
    obtain ⟨below, rfl⟩ := List.getElem?_eq_some_iff.1 carried
    exact layout_of_value below

/-- The ports without types are those for ordering and control. -/
theorem otherPorts_of_portKind? {offset : Int} {kind : PortKind} (found : op.portKind? direction offset = some kind)
    (untyped : kind.kind.isTyped = false) : (op.otherPorts direction).1 = some kind.kind ∧ kind.type = none := by
  obtain ⟨position, -, member⟩ := portKind?_eq_some_iff.1 found
  rcases layout_cases member with ⟨ty, -, rfl⟩ | ⟨held, -, -, rfl⟩ | ⟨other, -, isOther, rfl⟩
  · cases untyped
  · cases untyped
  · exact ⟨isOther, rfl⟩

/-- Ports for ordering and control have no type. -/
theorem type_eq_none_of_portKind? {offset : Int} {kind : PortKind} (found : op.portKind? direction offset = some kind)
    (untyped : kind.kind.isTyped = false) : kind.type = none :=
  (otherPorts_of_portKind? found untyped).2

/-- Only blocks and exits have ports for control. -/
theorem opTag_of_controlFlow {offset : Int} {kind : PortKind} (found : op.portKind? direction offset = some kind)
    (control : kind.kind = .controlFlow) : op.opTag = .block ∨ op.opTag = .exit := by
  have other := (otherPorts_of_portKind? found (by rw [control]; rfl)).1
  rw [control] at other
  cases op <;> cases direction <;> simp_all [otherPorts, opTag]

/-- The kind of a value port tells the type of the values. -/
theorem exists_type_of_value {offset : Int} {kind : PortKind} (found : op.portKind? direction offset = some kind)
    (value : kind.kind = .value) : ∃ ty, kind = ⟨.value, some (.value ty)⟩ := by
  obtain ⟨lower, -⟩ := portKind?_inside found
  obtain ⟨_, type⟩ := kind
  subst value
  rw [← Int.toNat_of_nonneg lower] at found
  obtain ⟨ty, -, rfl⟩ := portKind?_eq_value_iff.1 found
  exact ⟨ty, rfl⟩

theorem portCount_withDelta? {delta : ExtensionSet} {declared : Op} (found : op.withDelta? delta = some declared)
    (direction : Direction) : declared.portCount direction = op.portCount direction :=
  (samePorts_withDelta? found direction).portCount

theorem portKind?_withDelta? {delta : ExtensionSet} {declared : Op} (found : op.withDelta? delta = some declared)
    (direction : Direction) (offset : Int) : declared.portKind? direction offset = op.portKind? direction offset :=
  (samePorts_withDelta? found direction).portKind? offset

theorem isAnnotatable_withDelta? {delta : ExtensionSet} {declared : Op} (found : op.withDelta? delta = some declared) :
    declared.isAnnotatable = true := by
  cases op <;> cases found <;> rfl

theorem delta?_withDelta? {delta : ExtensionSet} {declared : Op} (found : op.withDelta? delta = some declared) :
    declared.delta? = some delta := by
  cases op <;> cases found <;> rfl

theorem isDefinition_withDelta? {delta : ExtensionSet} {declared : Op} (found : op.withDelta? delta = some declared) :
    declared.isDefinition = op.isDefinition := by
  cases op <;> cases found <;> rfl

theorem isContainer_of_isAnnotatable (annotatable : op.isAnnotatable = true) : op.isContainer = true := by
  cases op <;> cases annotatable <;> rfl

theorem withDelta?_of_not_annotatable (fixed : op.isAnnotatable = false) (delta : ExtensionSet) :
    op.withDelta? delta = none := by
  cases op <;> first | rfl | cases fixed

theorem exists_withDelta? (annotatable : op.isAnnotatable = true) (delta : ExtensionSet) :
    ∃ declared, op.withDelta? delta = some declared := by
  cases op <;> cases annotatable <;> exact ⟨_, rfl⟩

end NestedFlow.Op
