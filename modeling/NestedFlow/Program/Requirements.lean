import NestedFlow.Program

/-! Extension requirements of regions.

The requirement of a container is the union of what its children contribute. Definitions contribute nothing, regions
with a declared set contribute that set, other regions their own requirement. A declared set has to include the
requirement; regions that declare nothing can be given theirs.
-/

set_option autoImplicit false

namespace NestedFlow

/-- The requirement of every container, and those among them that are not declared although they could be. -/
structure Requirements where
  required : Table Node ExtensionSet
  undeclared : Table Node ExtensionSet
  /-- What is missing from declared sets. -/
  missing : List (Node × ExtensionSet)

namespace Requirements

def empty : Requirements := ⟨∅, ∅, []⟩

def errors (requirements : Requirements) : List Error :=
  requirements.missing.map fun (node, missing) => .onNode (.missingExtensions missing) node

end Requirements

namespace Program

/-- What a child adds to the requirement of its parent. -/
def contribution (program : Program) (required : Table Node ExtensionSet) (child : Node) : Outcome ExtensionSet := do
  let op ← program.op child
  if op.isDefinition then pure ∅
  else
    match op.delta? with
    | some declared => pure declared
    | none => pure (required.getD child ∅)

/-- Add the requirement of a node whose children are done. -/
def requireNode (program : Program) (found : Requirements) (node : Node) : Outcome Requirements := do
  let op ← program.op node
  if !op.isContainer then pure found
  else
    let children ← program.children node
    let parts ← children.mapM (program.contribution found.required)
    let required := ExtensionSet.unionAll parts
    let found := { found with required := found.required.insert node required }
    match op.delta? with
    | none =>
      if op.isAnnotatable then pure { found with undeclared := found.undeclared.insert node required }
      else pure found
    | some declared =>
      if required.subset declared then pure found
      else pure { found with missing := found.missing ++ [(node, declared.missingFrom required)] }

/-- The requirements of the tree under the root, children before parents. -/
def requirements (program : Program) : Outcome Requirements := do
  let tree ← program.descendants program.root
  tree.reverse.foldlM program.requireNode .empty

/-- The requirements, if no declared set is too small. -/
def inferred (program : Program) : Outcome Requirements := do
  let found ← program.requirements
  match found.errors with
  | [] => pure found
  | error :: _ => .error error

/-- Declare the requirement of a node. -/
def declare (node : Node) (delta : ExtensionSet) : Change Program Unit := do
  let op ← Change.ask fun program => program.entry node
  let declared ← Change.ask fun _ => op.declare delta
  modify fun program => { program with ops := program.ops.insert node declared }

/-- Declare the requirements of the regions that declare none. -/
def inferExtensions : Change Program Requirements := do
  let found ← Change.ask fun program => program.inferred
  found.undeclared.entries.forM fun (node, delta) => declare node delta
  pure found

end Program

end NestedFlow
