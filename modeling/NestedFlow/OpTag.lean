/-! Classes of operations.

Containers say which children they admit by a class. Classes are ordered by inclusion; `isSuperset_iff` says that a
class is included in another exactly when it is that class, or one of the classes directly above it is included.
-/

set_option autoImplicit false

namespace NestedFlow

inductive OpTag where
  | any
  | none
  | moduleRoot
  | moduleOp
  | function
  | scopedDefn
  | const
  | funcDefn
  | dataflowChild
  | input
  | output
  | dataflowOp
  | dataflowParent
  | cfg
  | conditional
  | tailLoop
  | dfg
  | fnCall
  | loadConst
  | loadFunc
  | leaf
  | branch
  | controlFlowChild
  | block
  | exit
  deriving DecidableEq, Inhabited

namespace OpTag

def all : List OpTag :=
  [.any, .none, .moduleRoot, .moduleOp, .function, .scopedDefn, .const, .funcDefn, .dataflowChild, .input, .output,
    .dataflowOp, .dataflowParent, .cfg, .conditional, .tailLoop, .dfg, .fnCall, .loadConst, .loadFunc, .leaf, .branch,
    .controlFlowChild, .block, .exit]

theorem mem_all (tag : OpTag) : tag ∈ all := by cases tag <;> decide

def text : OpTag → String
  | .any => "Any"
  | .none => "None"
  | .moduleRoot => "ModuleRoot"
  | .moduleOp => "ModuleOp"
  | .function => "Function"
  | .scopedDefn => "ScopedDefn"
  | .const => "Const"
  | .funcDefn => "FuncDefn"
  | .dataflowChild => "DataflowChild"
  | .input => "Input"
  | .output => "Output"
  | .dataflowOp => "DataflowOp"
  | .dataflowParent => "DataflowParent"
  | .cfg => "Cfg"
  | .conditional => "Conditional"
  | .tailLoop => "TailLoop"
  | .dfg => "Dfg"
  | .fnCall => "FnCall"
  | .loadConst => "LoadConst"
  | .loadFunc => "LoadFunc"
  | .leaf => "Leaf"
  | .branch => "Case"
  | .controlFlowChild => "ControlFlowChild"
  | .block => "DataflowBlock"
  | .exit => "ExitBlock"

def ofText? (name : String) : Option OpTag := all.find? fun tag => tag.text == name

/-- The classes directly above a class. -/
def parents : OpTag → List OpTag
  | .any => []
  | .none | .moduleRoot | .moduleOp | .dataflowChild | .dataflowParent | .controlFlowChild => [.any]
  | .function => [.moduleOp]
  | .scopedDefn => [.dataflowChild, .moduleOp]
  | .const => [.scopedDefn]
  | .funcDefn => [.function, .scopedDefn, .dataflowParent]
  | .input | .output | .dataflowOp => [.dataflowChild]
  | .cfg | .conditional | .fnCall | .loadConst | .loadFunc | .leaf => [.dataflowOp]
  | .tailLoop | .dfg => [.dataflowOp, .dataflowParent]
  | .branch => [.dataflowParent]
  | .block => [.controlFlowChild, .dataflowParent]
  | .exit => [.controlFlowChild]

/-- Inclusion through at most `steps` classes directly above one another. -/
def includesWithin (tag : OpTag) : Nat → OpTag → Bool
  | 0, other => tag == other || tag == .any
  | steps + 1, other => tag == other || tag == .any || other.parents.any (tag.includesWithin steps)

/-- Whether every operation of the other class is in this one. No chain of classes is longer than three steps. -/
def isSuperset (tag other : OpTag) : Bool := tag.includesWithin 3 other

theorem isSuperset_iff (tag other : OpTag) :
    tag.isSuperset other =
      (tag == other || tag == .any || other.parents.any fun parent => tag.isSuperset parent) := by
  cases tag <;> cases other <;> rfl

end OpTag

end NestedFlow
