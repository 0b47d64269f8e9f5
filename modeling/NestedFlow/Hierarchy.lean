import NestedFlow.Change
import NestedFlow.Table

/-! Containment of nodes: every node has at most one parent, and the children of a node are ordered.

The children of a node are a doubly linked list, so that a child is put next to another one, and taken away, without
touching the rest. A walk along links visits no node twice, which bounds its length by the number of links; the
bounds below never cut a walk short.
-/

set_option autoImplicit false

namespace NestedFlow

structure Hierarchy where
  parents : Table Node Node
  firsts : Table Node Node
  lasts : Table Node Node
  nexts : Table Node Node
  prevs : Table Node Node
  counts : Table Node Nat
  deriving DecidableEq

namespace Hierarchy

def empty : Hierarchy := ⟨∅, ∅, ∅, ∅, ∅, ∅⟩

instance : Inhabited Hierarchy := ⟨empty⟩

/-! ### Questions -/

def parent? (hierarchy : Hierarchy) (node : Node) : Option Node := hierarchy.parents.get? node

def firstChild? (hierarchy : Hierarchy) (node : Node) : Option Node := hierarchy.firsts.get? node

def lastChild? (hierarchy : Hierarchy) (node : Node) : Option Node := hierarchy.lasts.get? node

def nextSibling? (hierarchy : Hierarchy) (node : Node) : Option Node := hierarchy.nexts.get? node

def prevSibling? (hierarchy : Hierarchy) (node : Node) : Option Node := hierarchy.prevs.get? node

def numChildren (hierarchy : Hierarchy) (node : Node) : Nat := hierarchy.counts.getD node 0

def hasChildren (hierarchy : Hierarchy) (node : Node) : Bool := hierarchy.firsts.contains node

/-- The nodes along some links, beginning with a given one. -/
def chain (links : Table Node Node) : Nat → Option Node → List Node
  | 0, _ => []
  | _ + 1, none => []
  | steps + 1, some node => node :: chain links steps (links.get? node)

def children (hierarchy : Hierarchy) (node : Node) : List Node :=
  chain hierarchy.nexts (hierarchy.nexts.size + 1) (hierarchy.firstChild? node)

/-- From the parent up to the top. -/
def ancestors (hierarchy : Hierarchy) (node : Node) : List Node :=
  chain hierarchy.parents (hierarchy.parents.size + 1) (hierarchy.parent? node)

/-- Whether the first node strictly contains the second. -/
def isAncestor (hierarchy : Hierarchy) (ancestor node : Node) : Bool :=
  decide (ancestor ∈ hierarchy.ancestors node)

def contains (hierarchy : Hierarchy) (ancestor node : Node) : Bool :=
  ancestor == node || hierarchy.isAncestor ancestor node

/-- Take a node from the stack and put its children there, the first one on top. -/
def preorder (hierarchy : Hierarchy) : Nat → List Node → List Node
  | 0, _ => []
  | _ + 1, [] => []
  | steps + 1, node :: stack => node :: preorder hierarchy steps (hierarchy.children node ++ stack)

/-- The node and everything below it, every node before its children. -/
def descendants (hierarchy : Hierarchy) (node : Node) : List Node :=
  hierarchy.preorder (hierarchy.parents.size + 1) [node]

/-- The topmost node that contains this one, or the node itself. -/
def top (hierarchy : Hierarchy) (node : Node) : Node := ((hierarchy.ancestors node).getLast?).getD node

/-! ### Changes -/

/-- A node may be attached if it has no parent and does not contain its new parent. -/
def checkAttachable (hierarchy : Hierarchy) (node parent : Node) : Outcome Unit :=
  match hierarchy.parent? node with
  | some current => failAt node (.shape (.alreadyAttached node current))
  | none =>
    if node = parent ∨ hierarchy.isAncestor node parent then failAt node (.shape (.containmentCycle node parent))
    else pure ()

/-- Erase an entry that has to be there. -/
def drop {ν : Type} (table : Table Node ν) (node : Node) : Outcome (Table Node ν) := do
  let _ ← require (table.get? node) .key
  pure (table.erase node)

/-- Put a link from a node to another one, or erase the link that has to be there. -/
def relink (table : Table Node Node) (node : Node) : Option Node → Outcome (Table Node Node)
  | some other => pure (table.insert node other)
  | none => drop table node

/-- Attach a node as the last child of a parent. -/
def pushChild (node parent : Node) : Change Hierarchy Unit := do
  Change.ask fun hierarchy => hierarchy.checkAttachable node parent
  match (← get).lastChild? parent with
  | none => modify fun h => { h with firsts := h.firsts.insert parent node }
  | some last => modify fun h => { h with nexts := h.nexts.insert last node, prevs := h.prevs.insert node last }
  modify fun h =>
    { h with
      lasts := h.lasts.insert parent node
      parents := h.parents.insert node parent
      counts := h.counts.insert parent (h.numChildren parent + 1) }

/-- Attach a node immediately before a sibling, under the parent of the sibling. -/
def insertBefore (node sibling : Node) : Change Hierarchy Unit := do
  match (← get).parent? sibling with
  | none => throw (.onNode (.shape (.insertBeforeTop sibling)) sibling)
  | some parent =>
    Change.ask fun hierarchy => hierarchy.checkAttachable node parent
    match (← get).prevSibling? sibling with
    | none => modify fun h => { h with firsts := h.firsts.insert parent node }
    | some prev => modify fun h => { h with nexts := h.nexts.insert prev node, prevs := h.prevs.insert node prev }
    modify fun h =>
      { h with
        nexts := h.nexts.insert node sibling
        prevs := h.prevs.insert sibling node
        parents := h.parents.insert node parent }
    let count ← Change.ask fun h => require (h.counts.get? parent) .key
    modify fun h => { h with counts := h.counts.insert parent (count + 1) }

/-- Attach a node as the first child of a parent. -/
def pushFrontChild (node parent : Node) : Change Hierarchy Unit := do
  match (← get).firstChild? parent with
  | none => pushChild node parent
  | some first => insertBefore node first

/-- Attach a node immediately after a sibling, under the parent of the sibling. -/
def insertAfter (node sibling : Node) : Change Hierarchy Unit := do
  match (← get).nextSibling? sibling with
  | some next => insertBefore node next
  | none =>
    match (← get).parent? sibling with
    | none => throw (.onNode (.shape (.insertAfterTop sibling)) sibling)
    | some parent => pushChild node parent

/-- Close the gap between the siblings of a former child. -/
def bridge (parent : Node) (prev next : Option Node) : Change Hierarchy Unit := do
  match prev with
  | none =>
    let firsts ← Change.ask fun h => relink h.firsts parent next
    modify fun h => { h with firsts := firsts }
  | some prev =>
    let nexts ← Change.ask fun h => relink h.nexts prev next
    modify fun h => { h with nexts := nexts }
  match next with
  | none =>
    let lasts ← Change.ask fun h => relink h.lasts parent prev
    modify fun h => { h with lasts := lasts }
  | some next =>
    let prevs ← Change.ask fun h => relink h.prevs next prev
    modify fun h => { h with prevs := prevs }

/-- Take a node, with everything below it, from its parent, which is returned. -/
def detach (node : Node) : Change Hierarchy (Option Node) := do
  match (← get).parent? node with
  | none => pure none
  | some parent =>
    let prev := (← get).prevSibling? node
    let next := (← get).nextSibling? node
    modify fun h =>
      { h with parents := h.parents.erase node, prevs := h.prevs.erase node, nexts := h.nexts.erase node }
    bridge parent prev next
    let count ← Change.ask fun h => require (h.counts.get? parent) .key
    modify fun h =>
      { h with
        counts := if count = 1 then h.counts.erase parent else h.counts.insert parent (count - 1) }
    pure (some parent)

/-- Drop every trace of a node without children. -/
def forget (node : Node) : Change Hierarchy Unit := do
  if (← get).hasChildren node then throw (.onNode (.shape (.forgetParent node)) node)
  let _ ← detach node

end Hierarchy

end NestedFlow
