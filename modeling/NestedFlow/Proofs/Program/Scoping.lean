import NestedFlow.Proofs.Program.Accepted
import NestedFlow.Proofs.Program.Requirements
import NestedFlow.Proofs.Scoping

/-! The static data of accepted programs in the scopes of their nodes.

Validation looks at the types of ports, and recomputes recorded signatures. This reaches every type and every
polymorphic signature in an operation, and every argument that a signature mentions. It reaches a declared set inside a
function, since the function requires it; outside functions nothing looks at the variables of a set.
-/

set_option autoImplicit false

namespace NestedFlow

open Hierarchy Report

/-! ### Static data -/

namespace Op

/-- The types in an operation: of its rows, its constant and its recorded signature. -/
def types : Op → Row
  | .moduleRoot | .funcDefn _ _ | .funcDecl _ _ => []
  | .const value typ => typ :: value.types
  | .input types | .output types | .exit types | .lift types _ | .makeTuple types | .unpackTuple types => types
  | .dfg inputs outputs _ | .branch inputs outputs _ | .cfg inputs outputs _ => inputs ++ outputs
  | .conditional sumRows otherInputs outputs _ => sumRows.flatten ++ otherInputs ++ outputs
  | .tailLoop justInputs justOutputs rest _ => justInputs ++ justOutputs ++ rest
  | .block inputs sumRows otherOutputs _ => inputs ++ sumRows.flatten ++ otherOutputs
  | .call _ _ instantiation => instantiation.input ++ instantiation.output
  | .callIndirect signature | .loadFunction _ _ signature => [signature.toTy]
  | .loadConstant ty | .noop ty => [ty]
  | .tag variants _ => variants.flatten
  | .extension _ _ _ signature => signature.input ++ signature.output

/-- The polymorphic signatures in an operation. -/
def schemes : Op → List Scheme
  | .funcDefn _ signature | .funcDecl _ signature => [signature]
  | .call function _ _ | .loadFunction function _ _ => [function]
  | _ => []

/-- The sets of extensions in an operation: declared, or in the recorded signature of what is run. -/
def sets : Op → List ExtensionSet
  | .dfg _ _ delta | .conditional _ _ _ delta | .branch _ _ delta | .tailLoop _ _ _ delta | .cfg _ _ delta
  | .block _ _ _ delta => delta.toList
  | .call _ _ instantiation => [instantiation.reqs]
  | .extension _ _ _ signature => [signature.reqs]
  | _ => []

/-- The static arguments in an operation. -/
def args : Op → List Arg
  | .call _ typeArgs _ | .loadFunction _ typeArgs _ => typeArgs
  | .extension _ _ args _ => args
  | _ => []

/-- All static data in an operation is well formed in a scope. -/
structure WellScoped (registry : Registry) (scope : List Param) (op : Op) : Prop where
  types : ∀ ty ∈ op.types, ty.validate registry scope = .ok ()
  schemes : ∀ scheme ∈ op.schemes, scheme.validate registry = .ok ()
  sets : ∀ set ∈ op.sets, set.validate scope = .ok ()
  args : ∀ arg ∈ op.args, arg.validate registry scope = .ok ()

/-- The arguments that reach the recorded signature. The sets in it count for a function value, since they are part of
its type; for what is run they count inside functions only. -/
inductive Mentions (registry : Registry) (inFunction : Prop) : Op → Nat → Prop where
  | call {function : Scheme} {typeArgs : List Arg} {instantiation : Signature} {position : Nat}
      (mentioned : function.body.Mentions inFunction position) :
      Mentions registry inFunction (.call function typeArgs instantiation) position
  | loadFunction {function : Scheme} {typeArgs : List Arg} {signature : Signature} {position : Nat}
      (mentioned : function.body.Mentions True position) :
      Mentions registry inFunction (.loadFunction function typeArgs signature) position
  | fixed {extension name : String} {args : List Arg} {signature : Signature} {definition : OpDef} {scheme : Scheme}
      {position : Nat} (found : registry.getOp extension name = .ok definition)
      (rule : definition.rule = .fixed scheme) (mentioned : scheme.body.Mentions inFunction position) :
      Mentions registry inFunction (.extension extension name args signature) position
  | computed {extension name : String} {args : List Arg} {signature : Signature} {definition : OpDef}
      {rule : ComputedRule} {scheme : Scheme} {position : Nat} (found : registry.getOp extension name = .ok definition)
      (isRule : definition.rule = .computed rule)
      (computes : rule.compute (args.take rule.staticParams.length) = .ok scheme)
      (mentioned : scheme.body.Mentions inFunction position) :
      Mentions registry inFunction (.extension extension name args signature) (rule.staticParams.length + position)

/-- The static data in an operation that validation reaches is well formed in a scope. -/
structure ScopedWhereSeen (registry : Registry) (scope : List Param) (inFunction : Prop) (op : Op) : Prop where
  types : ∀ ty ∈ op.types, ty.validate registry scope = .ok ()
  schemes : ∀ scheme ∈ op.schemes, scheme.validate registry = .ok ()
  sets : inFunction → ∀ set ∈ op.sets, set.validate scope = .ok ()
  args : ∀ (position : Nat) arg, op.Mentions registry inFunction position → op.args[position]? = some arg →
    arg.validate registry scope = .ok ()

/-- The other static data in an operation is well formed in a scope. -/
structure ScopedWhereUnseen (registry : Registry) (scope : List Param) (inFunction : Prop) (op : Op) : Prop where
  sets : ¬ inFunction → ∀ set ∈ op.sets, set.validate scope = .ok ()
  args : ∀ (position : Nat) arg, ¬ op.Mentions registry inFunction position → op.args[position]? = some arg →
    arg.validate registry scope = .ok ()

theorem ScopedWhereSeen.wellScoped_iff {registry : Registry} {scope : List Param} {inFunction : Prop} {op : Op}
    (seen : op.ScopedWhereSeen registry scope inFunction) :
    op.WellScoped registry scope ↔ op.ScopedWhereUnseen registry scope inFunction := by
  constructor
  · exact fun well => ⟨fun _ => well.sets, fun _ arg _ supplied => well.args arg (List.mem_of_getElem? supplied)⟩
  · refine fun unseen => ⟨seen.types, seen.schemes, ?_, fun arg mem => ?_⟩
    · by_cases inside : inFunction
      · exact seen.sets inside
      · exact unseen.sets inside
    · obtain ⟨position, supplied⟩ := List.mem_iff_getElem?.1 mem
      by_cases mentions : op.Mentions registry inFunction position
      · exact seen.args position arg mentions supplied
      · exact unseen.args position arg mentions supplied

theorem eq_funcDefn {op : Op} (isFunction : op.opTag = .funcDefn) :
    ∃ name signature, op = .funcDefn name signature := by
  cases op <;> first | exact ⟨_, _, rfl⟩ | cases isFunction

theorem childRules_of_inner? {op : Op} {inner : Signature} (within : op.inner? = some inner) :
    op.childRules = .dataflow := by
  cases op <;> first | rfl | cases within

theorem delta?_of_mem_sets {op : Op} {set : ExtensionSet} (mem : set ∈ op.sets) : op.delta? = some set := by
  cases op <;> simp_all [sets, delta?]

theorem isDefinition_of_mem_sets {op : Op} {set : ExtensionSet} (mem : set ∈ op.sets) : op.isDefinition = false := by
  cases op <;> first | rfl | cases mem

/-! ### Ports -/

variable {registry : Registry} {scope : List Param} {op : Op}

theorem mem_portTypes {direction : Direction} {offset : Nat} {kind : EdgeKind} {type : PortType}
    (known : op.portKind? direction offset = some ⟨kind, some type⟩) : type ∈ Program.portTypes op := by
  have inside := (portKind?_inside known).2
  refine List.mem_append_left _ (List.mem_flatMap.2 ⟨direction, ?_, List.mem_filterMap.2 ⟨offset, ?_, ?_⟩⟩)
  · cases direction <;> decide
  · exact List.mem_range.2 (by omega)
  · rw [known]
    rfl

/-- A recorded signature is the one that was asked for. -/
theorem eq_recorded {asked : Outcome Signature} {cached : Signature} {fault : Signature → Fault}
    (checked : (asked >>= fun computed => if computed = cached then pure () else fail (fault computed)) = .ok ()) :
    asked = .ok cached := by
  obtain ⟨computed, found, same⟩ := Outcome.bind_eq_ok_iff.1 checked
  split at same
  · rename_i equal
    rw [found, equal]
  · cases same

/-- The recorded signature of an operation of an extension requires that extension, and is otherwise what its rule
gives. -/
theorem exists_baseSignature {extension name : String} {args : List Arg} {signature : Signature} {definition : OpDef}
    (found : registry.getOp extension name = .ok definition)
    (own : Program.checkOp registry (.extension extension name args signature) = .ok ()) :
    ∃ given, definition.baseSignature args = .ok given ∧
      { given with reqs := given.reqs.insert definition.extension } = signature := by
  rw [Program.checkOp, found, Outcome.ok_bind] at own
  obtain ⟨given, made, same⟩ := Outcome.bind_eq_ok_iff.1 (eq_recorded own)
  exact ⟨given, made, Except.ok.inj same⟩

section

variable (ports : ∀ type ∈ Program.portTypes op, Program.checkPortType registry scope type = .ok ())

include ports

theorem validate_valueTypes (direction : Direction) :
    ∀ ty ∈ op.valueTypes direction, ty.validate registry scope = .ok () := by
  intro ty mem
  obtain ⟨offset, found⟩ := List.mem_iff_getElem?.1 mem
  exact ports (.value ty) (mem_portTypes (portKind?_eq_value_iff.2 ⟨ty, found, rfl⟩))

theorem check_staticType {direction : Direction} {type : PortType} (static : op.staticType? direction = some type) :
    Program.checkPortType registry scope type = .ok () := by
  have known : op.portKind? direction (op.valueTypes direction).length = some ⟨.static, some type⟩ := by
    simp [portKind?, static]
  exact ports type (mem_portTypes known)

/-- All polymorphic signatures stand at static ports. -/
theorem validate_schemes : ∀ scheme ∈ op.schemes, scheme.validate registry = .ok () := by
  intro scheme mem
  have static : ∃ direction, op.staticType? direction = some (.scheme scheme) := by
    cases op with
    | funcDefn | funcDecl =>
      rw [List.mem_singleton.1 mem]
      exact ⟨.outgoing, rfl⟩
    | call | loadFunction =>
      rw [List.mem_singleton.1 mem]
      exact ⟨.incoming, rfl⟩
    | _ => cases mem
  obtain ⟨direction, found⟩ := static
  exact check_staticType ports found

/-- All types stand at ports, or in the region of an operation without value ports, or in a constant of such a type. -/
theorem validate_types (own : Program.checkOp registry op = .ok ())
    (region : ∀ inner, op.inner? = some inner → op.opTag ≠ .funcDefn →
      (∀ ty ∈ inner.input, ty.validate registry scope = .ok ()) ∧
        ∀ ty ∈ inner.output, ty.validate registry scope = .ok ()) :
    ∀ ty ∈ op.types, ty.validate registry scope = .ok () := by
  have incoming := validate_valueTypes ports .incoming
  have outgoing := validate_valueTypes ports .outgoing
  cases op with
  | moduleRoot | funcDefn | funcDecl => exact fun ty mem => absurd mem List.not_mem_nil
  | const value typ =>
    have static : (Op.const value typ).staticType? .outgoing = some (.value typ) := rfl
    have valid : typ.validate registry scope = .ok () := check_staticType ports static
    exact List.forall_mem_cons.2 ⟨valid, (Value.check_eq_ok_iff.1 own).validate_types valid⟩
  | output | lift | makeTuple | noop => exact incoming
  | input | loadConstant | loadFunction | unpackTuple => exact outgoing
  | dfg | cfg | call | extension => exact List.forall_mem_append.2 ⟨incoming, outgoing⟩
  | callIndirect => exact List.forall_mem_singleton.2 (List.forall_mem_cons.1 incoming).1
  | tag => exact Ty.validate_sum_iff.1 (outgoing _ List.mem_cons_self)
  | conditional =>
    obtain ⟨sum, others⟩ := List.forall_mem_cons.1 incoming
    exact List.forall_mem_append.2 ⟨List.forall_mem_append.2 ⟨Ty.validate_sum_iff.1 sum, others⟩, outgoing⟩
  | tailLoop =>
    obtain ⟨justInputs, rest⟩ := List.forall_mem_append.1 incoming
    obtain ⟨justOutputs, -⟩ := List.forall_mem_append.1 outgoing
    exact List.forall_mem_append.2 ⟨List.forall_mem_append.2 ⟨justInputs, justOutputs⟩, rest⟩
  | exit outputs =>
    exact fun ty mem => ports (.value ty) (List.mem_append_right _ (List.mem_map_of_mem mem))
  -- cases and blocks have no value ports; their types are those of the input and output inside
  | branch =>
    obtain ⟨input, output⟩ := region _ rfl OpTag.noConfusion
    exact List.forall_mem_append.2 ⟨input, output⟩
  | block =>
    obtain ⟨input, output⟩ := region _ rfl OpTag.noConfusion
    obtain ⟨sum, others⟩ := List.forall_mem_cons.1 output
    exact List.forall_mem_append.2 ⟨List.forall_mem_append.2 ⟨input, Ty.validate_sum_iff.1 sum⟩, others⟩

/-- The arguments that reach the recorded signature are well formed, since that is. -/
theorem validate_args (own : Program.checkOp registry op = .ok ()) {inFunction : Prop}
    (sets : inFunction → ∀ set ∈ op.sets, set.validate scope = .ok ()) {position : Nat} {arg : Arg}
    (mentions : op.Mentions registry inFunction position) (supplied : op.args[position]? = some arg) :
    arg.validate registry scope = .ok () := by
  have incoming := validate_valueTypes ports .incoming
  have outgoing := validate_valueTypes ports .outgoing
  cases mentions with
  | call mentioned =>
    exact Scheme.validate_supplied supplied (eq_recorded own) incoming outgoing
      (fun inside => sets inside _ List.mem_cons_self) mentioned
  | loadFunction mentioned =>
    obtain ⟨input, output, reqs⟩ := Ty.validate_function_iff.1 (outgoing _ List.mem_cons_self)
    exact Scheme.validate_supplied supplied (eq_recorded own) input output (fun _ => reqs) mentioned
  | fixed found rule mentioned =>
    obtain ⟨given, made, rfl⟩ := exists_baseSignature found own
    rw [OpDef.baseSignature, rule] at made
    exact Scheme.validate_supplied supplied made incoming outgoing
      (fun inside => sets inside (given.reqs.insert _) List.mem_cons_self) mentioned
  | computed found isRule computes mentioned =>
    obtain ⟨given, made, rfl⟩ := exists_baseSignature found own
    rw [OpDef.baseSignature, isRule] at made
    simp only at made
    split at made
    · cases made
    · obtain ⟨_, -, made⟩ := Outcome.bind_eq_ok_iff.1 made
      rw [computes, Outcome.ok_bind] at made
      -- the signature that is computed takes the arguments after those of the rule
      rw [← List.getElem?_drop] at supplied
      exact Scheme.validate_supplied supplied made incoming outgoing
        (fun inside => sets inside (given.reqs.insert _) List.mem_cons_self) mentioned

end

end Op

namespace Program

/-- A node is somewhere inside a function. -/
def InFunction (program : Program) (node : Node) : Prop :=
  ∃ above ∈ program.hierarchy.ancestors node, ∃ name signature, program.op above = .ok (.funcDefn name signature)

namespace AgreesOn

variable {program : Program} {kids : Node → List Node}

/-! ### Scopes -/

section

variable (agrees : program.AgreesOn kids) {parent child : Node} {op : Op} (isChild : child ∈ kids parent)
  (isParent : program.ops.get? parent = some op)

include agrees isChild isParent

/-- A function brings its own scope, everything else hands on the scope that it is in. -/
theorem scopeOf_child : program.scopeOf child =
    match op with
    | .funcDefn _ signature => .ok signature.params
    | _ => program.scopeOf parent := by
  rw [scopeOf, agrees.stores.ancestors_of_mem isChild, scopeOf.nearest, agrees.op_eq_ok_iff.2 isParent, Outcome.ok_bind]
  cases op <;> rfl

theorem scopeOf_child_of_ne (noFunction : op.opTag ≠ .funcDefn) : program.scopeOf child = program.scopeOf parent := by
  rw [agrees.scopeOf_child isChild isParent]
  cases op <;> first | rfl | exact absurd rfl noFunction

theorem inFunction_child_iff :
    program.InFunction child ↔ op.opTag = .funcDefn ∨ program.InFunction parent := by
  rw [InFunction, InFunction, agrees.stores.ancestors_of_mem isChild]
  simp only [List.mem_cons, exists_eq_or_imp, agrees.op_eq_ok_iff, isParent, Option.some.injEq]
  refine or_congr_left ?_
  cases op <;> simp [Op.opTag]

end

theorem exists_parent_of_inFunction (agrees : program.AgreesOn kids) {node : Node} (inside : program.InFunction node) :
    ∃ parent, node ∈ kids parent := by
  obtain ⟨above, isAbove, -⟩ := inside
  obtain ⟨parent, -, holds⟩ := Relation.TransGen.tail'_iff.1 (agrees.stores.mem_ancestors.1 isAbove)
  exact ⟨parent, holds⟩

/-! ### Sets inside functions -/

/-- A region other than a function adds what it needs, or the set that it declares, to the requirement around it. -/
theorem included_share {need : Node → ExtensionSet} {node : Node} {op : Op}
    (covers : ∀ node, program.Covers need node) (found : program.ops.get? node = some op)
    (container : op.isContainer = true) (noFunction : op.opTag ≠ .funcDefn) :
    (need node).Included (program.share need node) := by
  have runs : op.isDefinition = false := by
    cases op <;> first | rfl | exact absurd rfl noFunction | cases container
  rw [share, found]
  simp only [runs, Bool.false_eq_true, if_false]
  cases declared : op.delta? with
  | none => exact ExtensionSet.included_refl _
  | some set => exact covers node op set found container declared

section

variable {registry : Registry} (agrees : program.AgreesOn kids)
  (accepted : (program.validate registry true).Empty)

include agrees accepted

/-- Every container includes what its children need, and what it declares includes what it needs. -/
theorem exists_need : ∃ need : Node → ExtensionSet, (∀ node, program.Covers need node) ∧
    ∀ parent, ∀ child ∈ kids parent, (program.share need child).Included (need parent) := by
  obtain ⟨-, attached, -, -, declared⟩ := (agrees.empty_validate_iff registry true).1 accepted
  obtain ⟨found, asked, tally⟩ := agrees.exists_requirements
  have inTree : ∀ node, program.graph.contains node = true →
      node ∈ (program.hierarchy.descendants program.root).reverse := fun node live =>
    List.mem_reverse.2 ((agrees.mem_tree (agrees.empty_detachedReport_iff.1 attached)).2 live)
  have none : found.missing = [] := by
    have empty := declared rfl
    rw [Report.Empty, requirementsReport, asked, Outcome.ok_bind, Outcome.pure_eq, Except.ok.injEq] at empty
    exact Requirements.errors_eq_nil_iff.1 empty
  refine ⟨found.need, fun node op set isOp => ?_, fun parent child isChild => ?_⟩
  · exact tally.missing_iff.1 none node (inTree node (agrees.contains_of_get? isOp)) op set isOp
  · have live := (agrees.kids_live parent child isChild).2
    obtain ⟨container, isParent⟩ := agrees.get?_of_contains live
    have required := (tally.required_iff parent _).2
      ⟨inTree parent live, ⟨container, isParent, agrees.isContainer_of_accepted accepted isChild isParent⟩, rfl⟩
    rw [Requirements.need, Table.getD_eq, required, Option.getD_some]
    exact ExtensionSet.included_unionAll (List.mem_map_of_mem isChild)

/-- What a node inside a function needs has variables of the function only, since the function requires it. -/
theorem validate_need {need : Node → ExtensionSet} (covers : ∀ node, program.Covers need node)
    (includes : ∀ parent, ∀ child ∈ kids parent, (program.share need child).Included (need parent))
    {node child : Node} (isChild : child ∈ kids node) {scope : List Param} (inScope : program.scopeOf child = .ok scope)
    (inside : program.InFunction child) : (need node).validate scope = .ok () := by
  -- by induction on the node, from its parent, where the set of a region is included in the one around it
  induction node using agrees.stores.grounded.induction generalizing child with
  | _ node ih =>
    obtain ⟨op, found⟩ := agrees.get?_of_contains (agrees.kids_live node child isChild).2
    have container := agrees.isContainer_of_accepted accepted isChild found
    rw [agrees.inFunction_child_iff isChild found] at inside
    by_cases isFunction : op.opTag = .funcDefn
    · obtain ⟨name, signature, rfl⟩ := Op.eq_funcDefn isFunction
      rw [agrees.scopeOf_child isChild found] at inScope
      cases inScope
      obtain ⟨-, -, -, types⟩ := agrees.nodeReport_of_accepted accepted found
      obtain ⟨_, -, ports⟩ := empty_typeReport_iff.1 types
      have valid : signature.validate registry = .ok () := Op.validate_schemes ports signature List.mem_cons_self
      have declared := covers node _ signature.body.reqs found container rfl
      exact declared.validate (Ty.validate_function_iff.1 valid).2.2
    · have inside := inside.resolve_left isFunction
      rw [agrees.scopeOf_child_of_ne isChild found isFunction] at inScope
      obtain ⟨parent, within⟩ := agrees.exists_parent_of_inFunction inside
      have outer := ih parent within within inScope inside
      have contributes := included_share covers found container isFunction
      exact (contributes.trans (includes parent node within)).validate outer

theorem validate_sets {node : Node} {op : Op} (found : program.ops.get? node = some op) {scope : List Param}
    (inScope : program.scopeOf node = .ok scope) (inside : program.InFunction node) :
    ∀ set ∈ op.sets, set.validate scope = .ok () := by
  intro set mem
  obtain ⟨need, covers, includes⟩ := agrees.exists_need accepted
  obtain ⟨parent, within⟩ := agrees.exists_parent_of_inFunction inside
  have contributes := includes parent node within
  rw [share, found] at contributes
  simp only [Op.isDefinition_of_mem_sets mem, Op.delta?_of_mem_sets mem, Bool.false_eq_true, if_false,
    Option.getD_some] at contributes
  exact contributes.validate (agrees.validate_need accepted covers includes within inScope inside)

/-- The types of a region that is no function are well formed in its scope, since those of its input and output are. -/
theorem validate_inner {region : Node} {op : Op} {inner : Signature} (found : program.ops.get? region = some op)
    (within : op.inner? = some inner) (noFunction : op.opTag ≠ .funcDefn) {scope : List Param}
    (inScope : program.scopeOf region = .ok scope) :
    (∀ ty ∈ inner.input, ty.validate registry scope = .ok ()) ∧
      ∀ ty ∈ inner.output, ty.validate registry scope = .ok () := by
  obtain ⟨input, output, rest, children, atInput, atOutput⟩ :=
    agrees.boundary_of_accepted accepted found (Op.childRules_of_inner? within) within
  have values : ∀ child ∈ kids region, ∀ held, program.ops.get? child = some held →
      ∀ direction, ∀ ty ∈ held.valueTypes direction, ty.validate registry scope = .ok () := by
    intro child isChild held isHeld direction
    obtain ⟨-, -, -, types⟩ := agrees.nodeReport_of_accepted accepted isHeld
    obtain ⟨own, isOwn, ports⟩ := empty_typeReport_iff.1 types
    rw [agrees.scopeOf_child_of_ne isChild found noFunction, inScope, Except.ok.injEq] at isOwn
    exact Op.validate_valueTypes (isOwn ▸ ports) direction
  rw [children] at values
  exact ⟨values input List.mem_cons_self _ atInput .outgoing,
    values output (List.mem_cons_of_mem input List.mem_cons_self) _ atOutput .incoming⟩

end

end AgreesOn

/-- In an accepted program the static data of a node is well formed in the scope of the node where validation sees it;
so all of it is exactly if the rest is. -/
theorem scopes_static_data {program : Program} (reachable : Reachable program) {registry : Registry}
    (accepted : program.validate registry true = .ok []) {node : Node} {op : Op} (found : program.op node = .ok op) :
    ∃ scope, program.scopeOf node = .ok scope ∧ op.ScopedWhereSeen registry scope (program.InFunction node) ∧
      (op.WellScoped registry scope ↔ op.ScopedWhereUnseen registry scope (program.InFunction node)) := by
  have agrees : program.AgreesOn program.hierarchy.children := reachable.consistent
  rw [agrees.op_eq_ok_iff] at found
  obtain ⟨-, -, own, types⟩ := agrees.nodeReport_of_accepted accepted found
  obtain ⟨scope, inScope, ports⟩ := AgreesOn.empty_typeReport_iff.1 types
  have sets := fun inside => agrees.validate_sets accepted found inScope inside
  have seen : op.ScopedWhereSeen registry scope (program.InFunction node) := by
    refine ⟨?_, Op.validate_schemes ports, sets, ?_⟩
    · exact Op.validate_types ports own fun inner within noFunction =>
        agrees.validate_inner accepted found within noFunction inScope
    · exact fun position arg mentions supplied => Op.validate_args ports own sets mentions supplied
  exact ⟨scope, inScope, seen, seen.wellScoped_iff⟩

/-- A function of a type that requires a set of extensions; both are its parameters. -/
def generic : Scheme := ⟨[.extensions, .type .copyable], ⟨[.var 1 .copyable], [.var 1 .copyable], .ofVariable 0⟩⟩

/-- The function calls itself with its own parameters. -/
def recursive : Program :=
  (ofRoot .moduleRoot).edited [
    .addChild ⟨0, 0⟩ (.funcDefn "recursive" generic),
    .addChild ⟨1, 0⟩ (.input generic.body.input),
    .addChild ⟨1, 0⟩ (.output generic.body.output),
    .addChild ⟨1, 0⟩ (.call generic [.extensions (.ofVariable 0), .type (.var 1 .copyable)] generic.body),
    .connect ⟨1, 0⟩ 0 ⟨4, 0⟩ 1,
    .connect ⟨2, 0⟩ 0 ⟨4, 0⟩ 0,
    .connect ⟨4, 0⟩ 0 ⟨3, 0⟩ 0]

/-- In the recursive call both arguments are seen, and so is the recorded set. -/
theorem scopes_static_data_recursive :
    let call : Op := .call generic [.extensions (.ofVariable 0), .type (.var 1 .copyable)] generic.body
    recursive.validate ∅ true = .ok [] ∧ recursive.op ⟨4, 0⟩ = .ok call ∧
      (∃ scope, recursive.scopeOf ⟨4, 0⟩ = .ok scope ∧
        call.ScopedWhereSeen ∅ scope (recursive.InFunction ⟨4, 0⟩) ∧
        (call.WellScoped ∅ scope ↔ call.ScopedWhereUnseen ∅ scope (recursive.InFunction ⟨4, 0⟩))) ∧
      recursive.InFunction ⟨4, 0⟩ ∧ ∀ position < 2, call.Mentions ∅ (recursive.InFunction ⟨4, 0⟩) position := by
  intro call
  have reachable : Reachable recursive := (Reachable.ofRoot _).edits _
  have accepted : recursive.validate ∅ true = .ok [] := by decide +kernel
  have isCall : recursive.op ⟨4, 0⟩ = .ok call := by with_unfolding_all rfl
  have isFunction : recursive.op ⟨1, 0⟩ = .ok (.funcDefn "recursive" generic) := by with_unfolding_all rfl
  have inside : recursive.InFunction ⟨4, 0⟩ := ⟨⟨1, 0⟩, by decide +kernel, "recursive", generic, isFunction⟩
  refine ⟨accepted, isCall, scopes_static_data reachable accepted isCall, inside, fun position small => .call ?_⟩
  match position with
  | 0 => exact .inr (.inr ⟨inside, by decide +kernel⟩)
  | 1 => exact .inl (by decide +kernel)

/-- A region that calls a function of one type, which makes no use of it. -/
def forgetting (delta : Option ExtensionSet) (ty : Ty) : Program :=
  (ofRoot (.dfg [] [] delta)).edited [
    .addChild ⟨0, 0⟩ (.input []),
    .addChild ⟨0, 0⟩ (.output []),
    .addChild ⟨0, 0⟩ (.funcDefn "forget" ⟨[.type .linear], ⟨[], [], ∅⟩⟩),
    .addChild ⟨3, 0⟩ (.input []),
    .addChild ⟨3, 0⟩ (.output []),
    .addChild ⟨0, 0⟩ (.call ⟨[.type .linear], ⟨[], [], ∅⟩⟩ [.type ty] ⟨[], [], ∅⟩),
    .connect ⟨3, 0⟩ 0 ⟨6, 0⟩ 0]

/-- The program is accepted although some static data of the node is not well formed in its scope. -/
def Overlooks (program : Program) (registry : Registry) (node : Node) : Prop :=
  Reachable program ∧ program.validate registry true = .ok [] ∧ ∃ op scope, program.op node = .ok op ∧
    program.scopeOf node = .ok scope ∧ ¬ op.WellScoped registry scope

/-- Nothing looks at the type that a function is called at if the signature does not mention it, even if its extension
is not registered, nor at the variables of a set that is declared outside functions. -/
theorem overlooks_static_data :
    (forgetting none (.custom "ghost" "T" [] .copyable none)).Overlooks ∅ ⟨6, 0⟩ ∧
      (forgetting (some (.ofVariable 0)) (.tuple [])).Overlooks ∅ ⟨0, 0⟩ := by
  refine ⟨⟨(Reachable.ofRoot _).edits _, by decide +kernel, _, [], by with_unfolding_all rfl,
    by with_unfolding_all rfl, ?_⟩,
    ⟨(Reachable.ofRoot _).edits _, by decide +kernel, _, [], by with_unfolding_all rfl,
    by with_unfolding_all rfl, ?_⟩⟩
  · intro well
    have refused : ((Arg.type (.custom "ghost" "T" [] .copyable none)).validate ∅ []).isOk = false := by decide +kernel
    rw [well.args _ List.mem_cons_self] at refused
    cases refused
  · intro well
    have refused : ((ExtensionSet.ofVariable 0).validate []).isOk = false := by decide +kernel
    rw [well.sets _ List.mem_cons_self] at refused
    cases refused

end Program

end NestedFlow
