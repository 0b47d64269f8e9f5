import NestedFlow.OpTag
import NestedFlow.Port
import NestedFlow.Position
import NestedFlow.Signature
import NestedFlow.Value

/-! Operations of nodes.

The structural operations are a closed list; operations of extensions are one further case. An operation fixes the
ports of its node in each direction: first the value ports, then the static port, if it has one, then the ports for
ordering or control.
-/

set_option autoImplicit false

namespace NestedFlow

inductive Op where
  | moduleRoot
  | funcDefn (name : String) (signature : Scheme)
  | funcDecl (name : String) (signature : Scheme)
  | const (value : Value) (typ : Ty)
  | input (types : Row)
  | output (types : Row)
  | dfg (inputs outputs : Row) (delta : Option ExtensionSet)
  | conditional (sumRows : List Row) (otherInputs outputs : Row) (delta : Option ExtensionSet)
  | branch (inputs outputs : Row) (delta : Option ExtensionSet)
  | tailLoop (justInputs justOutputs rest : Row) (delta : Option ExtensionSet)
  | cfg (inputs outputs : Row) (delta : Option ExtensionSet)
  | block (inputs : Row) (sumRows : List Row) (otherOutputs : Row) (delta : Option ExtensionSet)
  | exit (outputs : Row)
  | call (function : Scheme) (typeArgs : List Arg) (instantiation : Signature)
  | callIndirect (signature : Signature)
  | loadConstant (datatype : Ty)
  | loadFunction (function : Scheme) (typeArgs : List Arg) (signature : Signature)
  | tag (variants : List Row) (index : Fin variants.length)
  | lift (types : Row) (newExtension : String)
  | makeTuple (types : Row)
  | unpackTuple (types : Row)
  | noop (ty : Ty)
  | extension (extension name : String) (args : List Arg) (signature : Signature)

instance : Inhabited Op := ⟨.moduleRoot⟩

/-- The type of a port: of a value, or of a function that may be polymorphic. -/
inductive PortType where
  | value (ty : Ty)
  | scheme (scheme : Scheme)
  deriving DecidableEq, Inhabited

namespace PortType

def text : PortType → String
  | .value ty => ty.text
  | .scheme polymorphic => polymorphic.text

def isLinear : PortType → Bool
  | .value ty => ty.isLinear
  | .scheme _ => false

end PortType

/-- What a port carries: the kind of its edges and, for value and static ports, a type. -/
structure PortKind where
  kind : EdgeKind
  type : Option PortType
  deriving DecidableEq, Inhabited

/-- The shape that an operation asks of its children. -/
structure ChildRules where
  allowed : OpTag
  nonempty : Bool
  first : OpTag
  second : OpTag
  acyclic : Bool
  deriving DecidableEq

namespace ChildRules

def childless : ChildRules := ⟨.none, false, .any, .any, false⟩

/-- Dataflow children in an acyclic order, with the input and the output of the region first. -/
def dataflow : ChildRules := ⟨.dataflowChild, true, .input, .output, true⟩

end ChildRules

namespace Op

def opTag : Op → OpTag
  | .moduleRoot => .moduleRoot
  | .funcDefn _ _ => .funcDefn
  | .funcDecl _ _ => .function
  | .const _ _ => .const
  | .input _ => .input
  | .output _ => .output
  | .dfg _ _ _ => .dfg
  | .conditional _ _ _ _ => .conditional
  | .branch _ _ _ => .branch
  | .tailLoop _ _ _ _ => .tailLoop
  | .cfg _ _ _ => .cfg
  | .block _ _ _ _ => .block
  | .exit _ => .exit
  | .call _ _ _ => .fnCall
  | .callIndirect _ => .dataflowOp
  | .loadConstant _ => .loadConst
  | .loadFunction _ _ _ => .loadFunc
  | .tag _ _ | .lift _ _ | .makeTuple _ | .unpackTuple _ | .noop _ | .extension _ _ _ _ => .leaf

def name : Op → String
  | .moduleRoot => "Module"
  | .funcDefn name _ => "FuncDefn(" ++ name ++ ")"
  | .funcDecl name _ => "FuncDecl(" ++ name ++ ")"
  | .const value _ => "Const(" ++ value.text ++ ")"
  | .input _ => "Input"
  | .output _ => "Output"
  | .dfg _ _ _ => "DFG"
  | .conditional _ _ _ _ => "Conditional"
  | .branch _ _ _ => "Case"
  | .tailLoop _ _ _ _ => "TailLoop"
  | .cfg _ _ _ => "CFG"
  | .block _ _ _ _ => "DataflowBlock"
  | .exit _ => "ExitBlock"
  | .call _ _ _ => "Call"
  | .callIndirect _ => "CallIndirect"
  | .loadConstant _ => "LoadConstant"
  | .loadFunction _ _ _ => "LoadFunction"
  | .tag _ _ => "Tag"
  | .lift _ _ => "Lift"
  | .makeTuple _ => "MakeTuple"
  | .unpackTuple _ => "UnpackTuple"
  | .noop _ => "Noop"
  | .extension owner operation _ _ => owner ++ "." ++ operation

/-- The values that the case of a conditional receives for a variant. -/
def caseSignature? (sumRows : List Row) (otherInputs outputs : Row) (index : Int) : Option Signature :=
  (itemAt? sumRows index).map fun row => .ofRows (row ++ otherInputs) outputs

/-- The values passed to the successor of a block for a variant. -/
def successorInput? (sumRows : List Row) (otherOutputs : Row) (index : Int) : Option Row :=
  (itemAt? sumRows index).map (· ++ otherOutputs)

/-- The signature of the value ports of a dataflow operation. -/
def signature? : Op → Option Signature
  | .input types => some (.ofRows [] types)
  | .output types => some (.ofRows types [])
  | .dfg inputs outputs delta => some ⟨inputs, outputs, delta.getD ∅⟩
  | .conditional sumRows otherInputs outputs delta =>
    some ⟨.sum sumRows :: otherInputs, outputs, delta.getD ∅⟩
  | .tailLoop justInputs justOutputs rest delta =>
    some ⟨justInputs ++ rest, justOutputs ++ rest, delta.getD ∅⟩
  | .cfg inputs outputs delta => some ⟨inputs, outputs, delta.getD ∅⟩
  | .call _ _ instantiation => some instantiation
  | .callIndirect signature => some ⟨signature.toTy :: signature.input, signature.output, signature.reqs⟩
  | .loadConstant datatype => some (.ofRows [] [datatype])
  | .loadFunction _ _ signature => some (.ofRows [] [signature.toTy])
  | .tag variants index => some (.ofRows variants[index] [.sum variants])
  | .lift types newExtension => some (.endo types (.ofName newExtension))
  | .makeTuple types => some (.ofRows types [.tuple types])
  | .unpackTuple types => some (.ofRows [.tuple types] types)
  | .noop ty => some (.endo [ty] ∅)
  | .extension _ _ _ signature => some signature
  | .moduleRoot | .funcDefn _ _ | .funcDecl _ _ | .const _ _ | .branch _ _ _ | .block _ _ _ _ | .exit _ => none

/-- The signature of the input and output of the region that an operation holds. -/
def inner? : Op → Option Signature
  | .funcDefn _ signature => some signature.body
  | .dfg inputs outputs delta => some ⟨inputs, outputs, delta.getD ∅⟩
  | .branch inputs outputs delta => some ⟨inputs, outputs, delta.getD ∅⟩
  | .tailLoop justInputs justOutputs rest delta =>
    some ⟨justInputs ++ rest, .sum [justInputs, justOutputs] :: rest, delta.getD ∅⟩
  | .block inputs sumRows otherOutputs delta =>
    some ⟨inputs, .sum sumRows :: otherOutputs, delta.getD ∅⟩
  | _ => none

def valueTypes (op : Op) (direction : Direction) : Row :=
  match op.signature?, direction with
  | none, _ => []
  | some signature, .incoming => signature.input
  | some signature, .outgoing => signature.output

/-- The type of the static port: functions and constants provide one, their users take one. -/
def staticType? : Op → Direction → Option PortType
  | .funcDefn _ signature, .outgoing => some (.scheme signature)
  | .funcDecl _ signature, .outgoing => some (.scheme signature)
  | .const _ typ, .outgoing => some (.value typ)
  | .call function _ _, .incoming => some (.scheme function)
  | .loadConstant datatype, .incoming => some (.value datatype)
  | .loadFunction function _ _, .incoming => some (.scheme function)
  | _, _ => none

/-- The kind and number of the ports after the value and static ones. -/
def otherPorts (op : Op) (direction : Direction) : Option EdgeKind × Nat :=
  match op, direction with
  | .moduleRoot, _ | .funcDefn _ _, _ | .funcDecl _ _, _ | .const _ _, _ | .branch _ _ _, _ => (none, 0)
  | .input _, .incoming | .output _, .outgoing | .exit _, .outgoing => (none, 0)
  | .block _ _ _ _, .incoming | .exit _, .incoming => (some .controlFlow, 1)
  | .block _ sumRows _ _, .outgoing => (some .controlFlow, sumRows.length)
  | _, _ => (some .order, 1)

def portCount (op : Op) (direction : Direction) : Nat :=
  (op.valueTypes direction).length + (if (op.staticType? direction).isSome then 1 else 0) +
    (op.otherPorts direction).2

/-- The offset of the static port. -/
def staticPort? (op : Op) (direction : Direction) : Option Nat :=
  if (op.staticType? direction).isSome then some (op.valueTypes direction).length else none

/-- The offset of the first port after the value and static ones. -/
def otherPort? (op : Op) (direction : Direction) : Option Nat :=
  match op.otherPorts direction with
  | (none, _) => none
  | (some _, 0) => none
  | (some _, count) => some (op.portCount direction - count)

def otherKind? (op : Op) (direction : Direction) (offset : Nat) : Option PortKind :=
  match op.otherPorts direction with
  | (some kind, count) => if offset < count then some ⟨kind, none⟩ else none
  | (none, _) => none

/-- The kind of the port at an offset. -/
def portKind? (op : Op) (direction : Direction) (offset : Int) : Option PortKind :=
  if offset < 0 then none
  else
    let values := op.valueTypes direction
    let position := offset.toNat
    match values[position]? with
    | some ty => some ⟨.value, some (.value ty)⟩
    | none =>
      let further := position - values.length
      match op.staticType? direction with
      | some type =>
        if further = 0 then some ⟨.static, some type⟩ else op.otherKind? direction (further - 1)
      | none => op.otherKind? direction further

/-- The offset of the port for ordering, if there is one. -/
def orderPort? (op : Op) (direction : Direction) : Option Nat :=
  if (op.otherPorts direction).1 = some .order then op.otherPort? direction else none

/-- The extensions an operation requires; nothing for a region whose requirements are not declared. -/
def delta? : Op → Option ExtensionSet
  | .moduleRoot => none
  | .funcDefn _ signature => some signature.body.reqs
  | .dfg _ _ delta | .conditional _ _ _ delta | .branch _ _ delta | .tailLoop _ _ _ delta | .cfg _ _ delta
  | .block _ _ _ delta => delta
  | .call _ _ instantiation => some instantiation.reqs
  | .callIndirect signature => some signature.reqs
  | .lift _ newExtension => some (.ofName newExtension)
  | .extension _ _ _ signature => some signature.reqs
  | _ => some ∅

/-- Whether the requirements of an operation may be filled in. -/
def isAnnotatable : Op → Bool
  | .dfg _ _ _ | .conditional _ _ _ _ | .branch _ _ _ | .tailLoop _ _ _ _ | .cfg _ _ _ | .block _ _ _ _ => true
  | _ => false

/-- The operation with its requirements declared; nothing if it cannot declare any. -/
def withDelta? (delta : ExtensionSet) : Op → Option Op
  | .dfg inputs outputs _ => some (.dfg inputs outputs (some delta))
  | .conditional sumRows otherInputs outputs _ => some (.conditional sumRows otherInputs outputs (some delta))
  | .branch inputs outputs _ => some (.branch inputs outputs (some delta))
  | .tailLoop justInputs justOutputs rest _ => some (.tailLoop justInputs justOutputs rest (some delta))
  | .cfg inputs outputs _ => some (.cfg inputs outputs (some delta))
  | .block inputs sumRows otherOutputs _ => some (.block inputs sumRows otherOutputs (some delta))
  | _ => none

def childRules : Op → ChildRules
  | .moduleRoot => ⟨.moduleOp, false, .any, .any, false⟩
  | .funcDefn _ _ | .dfg _ _ _ | .branch _ _ _ | .tailLoop _ _ _ _ | .block _ _ _ _ => .dataflow
  | .conditional _ _ _ _ => ⟨.branch, true, .any, .any, false⟩
  | .cfg _ _ _ => ⟨.controlFlowChild, true, .block, .any, false⟩
  | _ => .childless

/-- Whether the operation admits children at all. -/
def isContainer (op : Op) : Bool := op.childRules.allowed != .none

/-- Definitions are not run where they stand. -/
def isDefinition (op : Op) : Bool :=
  OpTag.isSuperset .scopedDefn op.opTag || OpTag.isSuperset .function op.opTag

/-- Equality of operations, with data compared as data. -/
def alike : Op → Op → Bool
  | .moduleRoot, .moduleRoot => true
  | .funcDefn n s, .funcDefn n' s' => n == n' && decide (s = s')
  | .funcDecl n s, .funcDecl n' s' => n == n' && decide (s = s')
  | .const v t, .const v' t' => v.alike v' && decide (t = t')
  | .input t, .input t' => decide (t = t')
  | .output t, .output t' => decide (t = t')
  | .dfg i o d, .dfg i' o' d' => decide (i = i' ∧ o = o' ∧ d = d')
  | .conditional s i o d, .conditional s' i' o' d' => decide (s = s' ∧ i = i' ∧ o = o' ∧ d = d')
  | .branch i o d, .branch i' o' d' => decide (i = i' ∧ o = o' ∧ d = d')
  | .tailLoop i o r d, .tailLoop i' o' r' d' => decide (i = i' ∧ o = o' ∧ r = r' ∧ d = d')
  | .cfg i o d, .cfg i' o' d' => decide (i = i' ∧ o = o' ∧ d = d')
  | .block i s o d, .block i' s' o' d' => decide (i = i' ∧ s = s' ∧ o = o' ∧ d = d')
  | .exit o, .exit o' => decide (o = o')
  | .call f a s, .call f' a' s' => decide (f = f' ∧ a = a' ∧ s = s')
  | .callIndirect s, .callIndirect s' => decide (s = s')
  | .loadConstant t, .loadConstant t' => decide (t = t')
  | .loadFunction f a s, .loadFunction f' a' s' => decide (f = f' ∧ a = a' ∧ s = s')
  | .tag v i, .tag v' i' => decide (v = v' ∧ i.val = i'.val)
  | .lift t e, .lift t' e' => decide (t = t' ∧ e = e')
  | .makeTuple t, .makeTuple t' => decide (t = t')
  | .unpackTuple t, .unpackTuple t' => decide (t = t')
  | .noop t, .noop t' => decide (t = t')
  | .extension e n a s, .extension e' n' a' s' => decide (e = e' ∧ n = n' ∧ a = a' ∧ s = s')
  | _, _ => false

def allAlike : List Op → List Op → Bool
  | [], [] => true
  | op :: rest, op' :: rest' => op.alike op' && allAlike rest rest'
  | _, _ => false

end Op

end NestedFlow
