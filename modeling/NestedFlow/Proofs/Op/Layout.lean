import NestedFlow.Op

/-! The layout of the ports of an operation.

The kinds of the ports in one direction make up a list: value ports with the types of a row, the static port, if there
is one, then ports for ordering or control. Each question about ports finds its answer by an arithmetic of its own;
all of them are read off this list, so that no two of them disagree.
-/

set_option autoImplicit false

namespace NestedFlow

namespace PortKind

def ofValue (ty : Ty) : PortKind := ⟨.value, some (.value ty)⟩

def ofStatic (type : PortType) : PortKind := ⟨.static, some type⟩

def untyped (kind : EdgeKind) : PortKind := ⟨kind, none⟩

end PortKind

namespace Op

variable {op : Op} {direction : Direction}

/-! ### The list of kinds -/

/-- The kinds of the ports for ordering or control. -/
def otherKinds (op : Op) (direction : Direction) : List PortKind :=
  ((op.otherPorts direction).1.map fun kind =>
    List.replicate (op.otherPorts direction).2 (PortKind.untyped kind)).getD []

/-- The kinds of all ports in their order. -/
def layout (op : Op) (direction : Direction) : List PortKind :=
  (op.valueTypes direction).map .ofValue ++ ((op.staticType? direction).toList.map .ofStatic ++ op.otherKinds direction)

theorem otherPorts_kind {kind : EdgeKind} (found : (op.otherPorts direction).1 = some kind) :
    kind = .order ∨ kind = .controlFlow := by
  cases op <;> cases direction <;> simp_all [otherPorts]

/-- Ports without a kind are not counted. -/
theorem otherPorts_snd_of_none (none : (op.otherPorts direction).1 = none) : (op.otherPorts direction).2 = 0 := by
  cases op <;> cases direction <;> first | rfl | cases none

theorem length_otherKinds : (op.otherKinds direction).length = (op.otherPorts direction).2 := by
  rw [otherKinds]
  cases kind : (op.otherPorts direction).1 with
  | none => exact (otherPorts_snd_of_none kind).symm
  | some kind => exact List.length_replicate

theorem otherKind?_eq (offset : Nat) : op.otherKind? direction offset = (op.otherKinds direction)[offset]? := by
  rw [otherKind?, otherKinds]
  generalize op.otherPorts direction = ports
  obtain ⟨kind, count⟩ := ports
  cases kind with
  | none => rfl
  | some kind =>
    rw [Option.map_some, Option.getD_some, List.getElem?_replicate]
    rfl

/-- The number of ports that are not for ordering or control. -/
def typedCount (op : Op) (direction : Direction) : Nat :=
  (op.valueTypes direction).length + (op.staticType? direction).toList.length

theorem portCount_eq_add :
    op.portCount direction = op.typedCount direction + (op.otherPorts direction).2 := by
  rw [portCount, typedCount]
  cases op.staticType? direction <;> rfl

theorem portCount_eq : op.portCount direction = (op.layout direction).length := by
  rw [portCount_eq_add, typedCount, layout, List.length_append, List.length_append, List.length_map, List.length_map,
    length_otherKinds, Nat.add_assoc]

/-- The kind of a port is the member of the list at its offset. -/
theorem portKind?_natCast (offset : Nat) : op.portKind? direction offset = (op.layout direction)[offset]? := by
  have nonnegative : ¬ (offset : Int) < 0 := by omega
  rw [portKind?, if_neg nonnegative, layout, List.getElem?_append, List.length_map, List.getElem?_map]
  simp only [Int.toNat_natCast]
  by_cases below : offset < (op.valueTypes direction).length
  · rw [if_pos below, List.getElem?_eq_getElem below]
    rfl
  · rw [if_neg below, List.getElem?_eq_none (by omega)]
    -- a static port takes the first offset behind the value ports, and shifts the others by one
    cases op.staticType? direction with
    | none => exact otherKind?_eq _
    | some type =>
      cases offset - (op.valueTypes direction).length with
      | zero => rfl
      | succ further => exact otherKind?_eq further

theorem portKind?_eq_some_iff {offset : Int} {kind : PortKind} :
    op.portKind? direction offset = some kind ↔
      ∃ position : Nat, offset = position ∧ (op.layout direction)[position]? = some kind := by
  constructor
  · intro found
    by_cases negative : offset < 0
    · rw [portKind?, if_pos negative] at found
      cases found
    · obtain ⟨position, rfl⟩ := Int.eq_ofNat_of_zero_le (Int.not_lt.1 negative)
      exact ⟨position, rfl, by rw [← portKind?_natCast, found]⟩
  · rintro ⟨position, rfl, found⟩
    rw [portKind?_natCast, found]

/-- A port with a kind is one of the ports of the operation. -/
theorem portKind?_inside {offset : Int} {kind : PortKind} (found : op.portKind? direction offset = some kind) :
    0 ≤ offset ∧ offset < op.portCount direction := by
  obtain ⟨position, rfl, member⟩ := portKind?_eq_some_iff.1 found
  have inside := (List.getElem?_eq_some_iff.1 member).1
  rw [portCount_eq]
  omega

/-! ### The three parts of the list -/

theorem layout_of_value {offset : Nat} (below : offset < (op.valueTypes direction).length) :
    (op.layout direction)[offset]? = some (.ofValue (op.valueTypes direction)[offset]) := by
  rw [layout, List.getElem?_append_left (by rwa [List.length_map]), List.getElem?_map, List.getElem?_eq_getElem below]
  rfl

theorem staticPort?_eq_some_iff {offset : Nat} :
    op.staticPort? direction = some offset ↔
      (op.staticType? direction).isSome = true ∧ offset = (op.valueTypes direction).length := by
  rw [staticPort?]
  split
  · rename_i held
    rw [Option.some.injEq, eq_comm, and_iff_right held]
  · rename_i absent
    exact iff_of_false nofun fun both => absent both.1

/-- Where the value ports end there is the static port, if the operation has one. -/
theorem layout_of_static {type : PortType} (held : op.staticType? direction = some type) :
    (op.layout direction)[(op.valueTypes direction).length]? = some (.ofStatic type) := by
  rw [layout, held, List.getElem?_append_right (Nat.le_of_eq (List.length_map _)), List.length_map, Nat.sub_self]
  rfl

/-- A port behind the value ports that is not the static one. -/
structure IsRemaining (op : Op) (direction : Direction) (offset : Nat) : Prop where
  present : offset < op.portCount direction
  behind : (op.valueTypes direction).length ≤ offset
  apart : op.staticPort? direction ≠ some offset

theorem isRemaining_iff {offset : Nat} :
    op.IsRemaining direction offset ↔ op.typedCount direction ≤ offset ∧ offset < op.portCount direction := by
  have apart : (op.valueTypes direction).length ≤ offset ∧ op.staticPort? direction ≠ some offset ↔
      op.typedCount direction ≤ offset := by
    rw [Ne, staticPort?_eq_some_iff, typedCount]
    cases op.staticType? direction with
    | none => simp
    | some ty =>
      simp only [Option.isSome_some, true_and, Option.toList_some, List.length_cons, List.length_nil, Nat.zero_add]
      omega
  constructor
  · intro remaining
    exact ⟨apart.1 ⟨remaining.behind, remaining.apart⟩, remaining.present⟩
  · rintro ⟨behind, present⟩
    exact ⟨present, (apart.2 behind).1, (apart.2 behind).2⟩

theorem otherPort?_eq_some_iff {offset : Nat} :
    op.otherPort? direction = some offset ↔ offset = op.typedCount direction ∧ (op.otherPorts direction).2 ≠ 0 := by
  have uncounted := @otherPorts_snd_of_none op direction
  rw [otherPort?, portCount_eq_add]
  generalize op.otherPorts direction = ports at uncounted ⊢
  obtain ⟨kind, count⟩ := ports
  cases kind with
  | none =>
    -- no operation counts ports without giving them a kind
    have zero : count = 0 := uncounted rfl
    simp [zero]
  | some kind => cases count <;> simp [eq_comm]

theorem layout_of_remaining {offset : Nat} (remaining : op.IsRemaining direction offset) :
    ∃ kind, (op.otherPorts direction).1 = some kind ∧ (op.layout direction)[offset]? = some (.untyped kind) := by
  obtain ⟨behind, present⟩ := isRemaining_iff.1 remaining
  rw [portCount_eq_add] at present
  have counted : offset - op.typedCount direction < (op.otherPorts direction).2 := by omega
  -- what remains lies in the last part of the list, behind the value ports and the static one taken together
  have later : (op.layout direction)[offset]? = (op.otherKinds direction)[offset - op.typedCount direction]? := by
    have typed : ((op.valueTypes direction).map PortKind.ofValue ++
        (op.staticType? direction).toList.map PortKind.ofStatic).length = op.typedCount direction := by
      rw [List.length_append, List.length_map, List.length_map, typedCount]
    rw [layout, ← List.append_assoc, List.getElem?_append_right (by rwa [typed]), typed]
  cases kind : (op.otherPorts direction).1 with
  | none =>
    rw [otherPorts_snd_of_none kind] at counted
    cases counted
  | some kind' =>
    refine ⟨kind', rfl, ?_⟩
    rw [later, otherKinds, kind, Option.map_some, Option.getD_some, List.getElem?_replicate, if_pos counted]

/-- Every port is a value port, the static port or one that remains, and has the kind that goes with it. -/
theorem layout_cases {offset : Nat} {kind : PortKind} (member : (op.layout direction)[offset]? = some kind) :
    (∃ ty, (op.valueTypes direction)[offset]? = some ty ∧ kind = .ofValue ty) ∨
      (∃ type, op.staticPort? direction = some offset ∧ op.staticType? direction = some type ∧
        kind = .ofStatic type) ∨
      ∃ other, op.IsRemaining direction offset ∧ (op.otherPorts direction).1 = some other ∧ kind = .untyped other := by
  by_cases below : offset < (op.valueTypes direction).length
  · rw [layout_of_value below, Option.some.injEq] at member
    exact .inl ⟨_, List.getElem?_eq_getElem below, member.symm⟩
  · by_cases static : op.staticPort? direction = some offset
    · obtain ⟨isSome, rfl⟩ := staticPort?_eq_some_iff.1 static
      obtain ⟨type, held⟩ := Option.isSome_iff_exists.1 isSome
      rw [layout_of_static held, Option.some.injEq] at member
      exact .inr (.inl ⟨type, static, held, member.symm⟩)
    · have present : offset < op.portCount direction := by
        rw [portCount_eq]
        exact (List.getElem?_eq_some_iff.1 member).1
      have remaining : op.IsRemaining direction offset := ⟨present, Nat.le_of_not_lt below, static⟩
      obtain ⟨other, isOther, kept⟩ := layout_of_remaining remaining
      rw [kept, Option.some.injEq] at member
      exact .inr (.inr ⟨other, remaining, isOther, member.symm⟩)

/-! ### The questions together -/

/-- What is answered about the ports of an operation in one direction fits together. -/
structure PortsAgree (op : Op) (direction : Direction) : Prop where
  present_iff : ∀ offset : Int,
    (op.portKind? direction offset).isSome = true ↔ 0 ≤ offset ∧ offset < op.portCount direction
  values : ∀ (offset : Nat) (below : offset < (op.valueTypes direction).length),
    op.portKind? direction offset = some ⟨.value, some (.value (op.valueTypes direction)[offset])⟩
  static_isSome : (op.staticPort? direction).isSome = (op.staticType? direction).isSome
  static_iff : ∀ (offset : Int) (type : Option PortType), op.portKind? direction offset = some ⟨.static, type⟩ ↔
    ∃ position : Nat, op.staticPort? direction = some position ∧ offset = position ∧ type = op.staticType? direction
  /-- What remains is a run from the first such port to the end. -/
  remaining_iff : ∀ offset : Nat, op.IsRemaining direction offset ↔
    ∃ first, op.otherPort? direction = some first ∧ first ≤ offset ∧ offset < op.portCount direction
  /-- The run is not empty. -/
  first_remaining : ∀ first, op.otherPort? direction = some first → op.IsRemaining direction first
  remaining_kind : ∀ offset : Nat, op.IsRemaining direction offset →
    ∃ kind, (op.otherPorts direction).1 = some kind ∧ op.portKind? direction offset = some ⟨kind, none⟩

/-- All that is answered about the ports of two operations in one direction is the same. -/
structure SamePorts (left right : Op) (direction : Direction) : Prop where
  valueTypes : left.valueTypes direction = right.valueTypes direction
  staticType? : left.staticType? direction = right.staticType? direction
  otherPorts : left.otherPorts direction = right.otherPorts direction
  portCount : left.portCount direction = right.portCount direction
  staticPort? : left.staticPort? direction = right.staticPort? direction
  otherPort? : left.otherPort? direction = right.otherPort? direction
  portKind? : ∀ offset : Int, left.portKind? direction offset = right.portKind? direction offset

theorem isSome_portKind?_iff (offset : Int) :
    (op.portKind? direction offset).isSome = true ↔ 0 ≤ offset ∧ offset < op.portCount direction := by
  constructor
  · intro present
    obtain ⟨kind, found⟩ := Option.isSome_iff_exists.1 present
    exact portKind?_inside found
  · rintro ⟨lower, upper⟩
    obtain ⟨position, rfl⟩ := Int.eq_ofNat_of_zero_le lower
    have inside : position < (op.layout direction).length := by
      rw [← portCount_eq]
      exact Int.ofNat_lt.1 upper
    rw [portKind?_natCast, List.getElem?_eq_getElem inside]
    rfl

theorem portKind?_eq_static_iff (offset : Int) (type : Option PortType) :
    op.portKind? direction offset = some ⟨.static, type⟩ ↔
      ∃ position : Nat, op.staticPort? direction = some position ∧ offset = position ∧
        type = op.staticType? direction := by
  constructor
  · intro found
    obtain ⟨position, rfl, member⟩ := portKind?_eq_some_iff.1 found
    rcases layout_cases member with ⟨ty, -, same⟩ | ⟨held, static, isHeld, same⟩ | ⟨other, -, isOther, same⟩
    · cases same
    · cases same
      exact ⟨position, static, rfl, isHeld.symm⟩
    · cases same
      rcases otherPorts_kind isOther with isOrder | isControl
      · cases isOrder
      · cases isControl
  · rintro ⟨position, static, rfl, rfl⟩
    obtain ⟨isSome, rfl⟩ := staticPort?_eq_some_iff.1 static
    obtain ⟨type, held⟩ := Option.isSome_iff_exists.1 isSome
    rw [portKind?_natCast, layout_of_static held, held]
    rfl

theorem portsAgree (op : Op) (direction : Direction) : op.PortsAgree direction where
  present_iff := isSome_portKind?_iff
  values offset below := by
    rw [portKind?_natCast, layout_of_value below]
    rfl
  static_isSome := by
    rw [staticPort?]
    cases op.staticType? direction <;> rfl
  static_iff := portKind?_eq_static_iff
  remaining_iff offset := by
    rw [isRemaining_iff]
    constructor
    · rintro ⟨behind, present⟩
      have counted : (op.otherPorts direction).2 ≠ 0 := by
        rw [portCount_eq_add] at present
        omega
      exact ⟨_, otherPort?_eq_some_iff.2 ⟨rfl, counted⟩, behind, present⟩
    · rintro ⟨first, isFirst, behind, present⟩
      rw [(otherPort?_eq_some_iff.1 isFirst).1] at behind
      exact ⟨behind, present⟩
  first_remaining first isFirst := by
    obtain ⟨rfl, counted⟩ := otherPort?_eq_some_iff.1 isFirst
    rw [isRemaining_iff, portCount_eq_add]
    omega
  remaining_kind offset remaining := by
    obtain ⟨kind, other, kept⟩ := layout_of_remaining remaining
    exact ⟨kind, other, by rw [portKind?_natCast, kept]; rfl⟩

/-! ### Declared requirements -/

/-- The rows, the type of the static port and the other ports settle all the rest. -/
theorem samePorts_of_parts {left right : Op} (values : left.valueTypes direction = right.valueTypes direction)
    (static : left.staticType? direction = right.staticType? direction)
    (others : left.otherPorts direction = right.otherPorts direction) : left.SamePorts right direction where
  valueTypes := values
  staticType? := static
  otherPorts := others
  portCount := by rw [portCount, portCount, values, static, others]
  staticPort? := by rw [staticPort?, staticPort?, values, static]
  otherPort? := by rw [otherPort?, otherPort?, portCount, portCount, values, static, others]
  portKind? offset := by simp only [portKind?, otherKind?, values, static, others]

theorem samePorts_withDelta? {delta : ExtensionSet} {declared : Op} (found : op.withDelta? delta = some declared)
    (direction : Direction) : declared.SamePorts op direction := by
  apply samePorts_of_parts <;> cases op <;> cases found <;> cases direction <;> rfl

/-- The questions about the ports of an operation agree with each other, and declaring the requirements of an operation
changes no answer to them. -/
theorem ports_agree (op : Op) (direction : Direction) :
    op.PortsAgree direction ∧
      ∀ delta declared, op.withDelta? delta = some declared → declared.SamePorts op direction :=
  ⟨portsAgree op direction, fun _ _ found => samePorts_withDelta? found direction⟩

/-- A block with two successors, which takes a value and has not declared its requirements. -/
def forking : Op := .block [.tuple []] [[], [.tuple []]] [] none

theorem ports_agree_forking :
    forking.PortsAgree .outgoing ∧ ∃ declared, forking.withDelta? (.ofName "logic") = some declared ∧
      declared.SamePorts forking .outgoing := by
  have agree := ports_agree forking .outgoing
  exact ⟨agree.1, _, rfl, agree.2 _ _ rfl⟩

end Op

end NestedFlow
