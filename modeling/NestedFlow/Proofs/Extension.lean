import NestedFlow.Extension.Codec
import NestedFlow.Proofs.Document.WellFormed

/-! Extensions are recovered from their descriptors.

A descriptor lists the members of an extension in their order. Reading it adds them one by one to an extension that has
none, and resolves types against the extension itself, which takes the place of a known one of its name. Only the rules
that compute signatures are lost.
-/

set_option autoImplicit false

namespace NestedFlow

open Outcome

/-! ### What a descriptor tells -/

/-- A rule that computes signatures is not told. -/
def SignatureRule.declared : SignatureRule → SignatureRule
  | .computed _ => .absent
  | rule => rule

def OpDef.declared (definition : OpDef) : OpDef := { definition with rule := definition.rule.declared }

/-- The extension without its rules that compute signatures. -/
def Extension.declared (extension : Extension) : Extension :=
  { extension with operations := extension.operations.mapValues fun _ definition => definition.declared }

/-- The registry with an extension in the place of one of the same name. -/
def Registry.replacing (registry : Registry) (extension : Extension) : Registry :=
  ⟨registry.extensions.insert extension.name extension⟩

/-- Every custom type in a fixed signature, or in the type of a value, is the instance of its definition in the
registry, and every set of extensions is recovered from its texts. -/
structure Extension.Resolved (registry : Registry) (extension : Extension) : Prop where
  reqs : extension.reqs.IsNamed
  signatures : ∀ name definition scheme, extension.operations.get? name = some definition →
    definition.rule = .fixed scheme → scheme.Resolved registry
  values : ∀ name named, extension.values.get? name = some named → named.typ.Resolved registry

/-! ### Members -/

/-- The name of an extension is one, its members have identifiers as names, and its values inhabit their types. -/
structure Extension.Checked (extension : Extension) : Prop where
  name : isExtensionName extension.name = true
  types : ∀ name ∈ extension.types.keys, Text.isIdentifier name = true
  operations : ∀ name ∈ extension.operations.keys, Text.isIdentifier name = true
  values : ∀ name named, extension.values.get? name = some named → Text.isIdentifier name = true ∧
    named.extension = extension.name ∧ named.name = name ∧ named.value.check named.typ = .ok ()

theorem Extension.checkMember_eq_ok_iff {ν : Type} {extension : Extension} {name : String} {table : Table String ν}
    {what : String} :
    extension.checkMember name table what = .ok () ↔ Text.isIdentifier name = true ∧ name ∉ table.keys := by
  rw [checkMember, Table.mem_keys_iff]
  cases Text.isIdentifier name with
  | false => simp [fail]
  | true => cases table.contains name <;> simp [fail]

theorem isIdentifier_of_mem_insert {ν : Type} {table : Table String ν} {name : String} {member : ν}
    (isName : Text.isIdentifier name = true) (others : ∀ other ∈ table.keys, Text.isIdentifier other = true) :
    ∀ other ∈ (table.insert name member).keys, Text.isIdentifier other = true := by
  intro other mem
  rcases Table.mem_keys_insert.1 mem with rfl | old
  · exact isName
  · exact others other old

/-- Whatever was added to an extension has been checked before. -/
theorem Extension.Constructed.checked {extension : Extension} (constructed : extension.Constructed) :
    extension.Checked := by
  induction constructed with
  | create created =>
    rw [Extension.create] at created
    split at created
    · rename_i isName
      cases created
      refine ⟨isName, fun _ mem => absurd mem List.not_mem_nil, fun _ mem => absurd mem List.not_mem_nil, ?_⟩
      intro name named found
      rw [Table.get?_emptyCollection] at found
      cases found
    · cases created
  | addType _ added ih =>
    obtain ⟨_, free, made⟩ := bind_eq_ok_iff.1 added
    cases made
    obtain ⟨isName, -⟩ := checkMember_eq_ok_iff.1 free
    exact { ih with types := isIdentifier_of_mem_insert isName ih.types }
  | addOp _ added ih =>
    obtain ⟨_, free, made⟩ := bind_eq_ok_iff.1 added
    cases made
    obtain ⟨isName, -⟩ := checkMember_eq_ok_iff.1 free
    exact { ih with operations := isIdentifier_of_mem_insert isName ih.operations }
  | addValue _ added ih =>
    obtain ⟨_, free, more⟩ := bind_eq_ok_iff.1 added
    obtain ⟨_, inhabits, made⟩ := bind_eq_ok_iff.1 more
    cases made
    obtain ⟨isName, -⟩ := checkMember_eq_ok_iff.1 free
    refine { ih with values := fun other named found => ?_ }
    rw [Table.get?_insert_eq] at found
    split at found
    · rename_i same
      cases found
      exact ⟨same ▸ isName, rfl, same.symm, inhabits⟩
    · exact ih.values other named found

theorem Extension.Checked.declared {extension : Extension} (checked : extension.Checked) :
    extension.declared.Checked := by
  refine { checked with operations := fun name mem => ?_ }
  rw [Extension.declared, Table.keys_mapValues] at mem
  exact checked.operations name mem

/-- What is added in the order of a list, each entry under a new key, is the table of that list. -/
theorem foldlM_entries {σ ν δ : Type} {entries : List (String × ν)} (distinct : (entries.map Prod.fst).Nodup)
    {doc : String × ν → δ} {step : σ → δ → Outcome σ} {put : Table String ν → σ}
    (each : ∀ done : Table String ν, ∀ entry ∈ entries, entry.1 ∉ done.keys →
      step (put done) (doc entry) = .ok (put (done.insert entry.1 entry.2))) :
    (entries.map doc).foldlM step (put ∅) = .ok (put (.ofList entries)) := by
  have further : ∀ done : Table String ν, (done.keys ++ entries.map Prod.fst).Nodup →
      (entries.map doc).foldlM step (put done) =
        .ok (put (entries.foldl (fun table entry => table.insert entry.1 entry.2) done)) := by
    -- on the entries that are left; their keys and those that are done stay distinct
    clear distinct
    induction entries with
    | nil => exact fun _ _ => rfl
    | cons entry rest ih =>
      intro done distinct
      have fresh : entry.1 ∉ done.keys := fun mem =>
        (List.nodup_append.1 distinct).2.2 entry.1 mem entry.1 List.mem_cons_self rfl
      rw [List.map_cons, List.foldlM_cons, each done entry List.mem_cons_self fresh, ok_bind, List.foldl_cons]
      apply ih fun done other mem => each done other (List.mem_cons_of_mem entry mem)
      rwa [Table.keys_insert, if_neg fresh, List.append_assoc, List.singleton_append]
  exact further ∅ distinct

theorem foldlM_members {ν δ : Type} (table : Table String ν) {doc : String × ν → δ}
    {step : Extension → δ → Outcome Extension} {put : Table String ν → Extension}
    (each : ∀ done : Table String ν, ∀ entry ∈ table.entries, entry.1 ∉ done.keys →
      step (put done) (doc entry) = .ok (put (done.insert entry.1 entry.2))) :
    (table.entries.map doc).foldlM step (put ∅) = .ok (put table) := by
  have same : Table.ofList table.entries = table := Table.ext (Table.entries_ofList table.nodup)
  rw [foldlM_entries table.nodup each, same]

/-! ### Registries -/

namespace Registry

/-- Extensions with distinct names make up a registry in which each is found under its own. -/
theorem ofList_eq {extensions : List Extension} (distinct : (extensions.map Extension.name).Nodup) :
    ofList extensions = .ok ⟨.ofList (extensions.map fun extension => (extension.name, extension))⟩ := by
  have keys : ((extensions.map fun extension => (extension.name, extension)).map Prod.fst).Nodup := by
    rwa [List.map_map]
  have extensions_eq : (extensions.map fun extension => (extension.name, extension)).map Prod.snd = extensions := by
    rw [List.map_map]
    exact List.map_id extensions
  rw [← @foldlM_entries _ _ _ _ keys Prod.snd register Registry.mk, extensions_eq]
  · rfl
  intro done entry mem fresh
  obtain ⟨extension, -, rfl⟩ := List.mem_map.1 mem
  have absent : ¬ done.contains extension.name = true := fun held => fresh ((Table.mem_keys_iff _ _).2 held)
  rw [register, if_neg absent, pure_eq]

theorem get?_ofList {extensions : List Extension} (distinct : (extensions.map Extension.name).Nodup) {name : String}
    {extension : Extension} :
    (Table.ofList (extensions.map fun extension => (extension.name, extension))).get? name = some extension ↔
      extension ∈ extensions ∧ extension.name = name := by
  have keys : ((extensions.map fun extension => (extension.name, extension)).map Prod.fst).Nodup := by
    rwa [List.map_map]
  rw [Table.get?_eq_some_iff, Table.entries_ofList keys, List.mem_map]
  constructor
  · rintro ⟨other, mem, same⟩
    cases same
    exact ⟨mem, rfl⟩
  · rintro ⟨mem, rfl⟩
    exact ⟨extension, mem, rfl⟩

section

variable {registry : Registry} (named : registry.WellNamed)

include named

theorem WellNamed.mem_toList {extension : Extension} :
    extension ∈ registry.toList ↔ registry.extensions.get? extension.name = some extension := by
  rw [toList, List.mem_filterMap]
  constructor
  · rintro ⟨name, -, found⟩
    rwa [(named name extension found).1]
  · intro found
    exact ⟨extension.name, SortedList.mem_ofList.2 (Table.mem_keys_of_get? found), found⟩

theorem WellNamed.map_name_toList : registry.toList.map Extension.name = registry.names := by
  have known : ∀ name ∈ registry.names, (registry.extensions.get? name).map Extension.name = some name := by
    intro name mem
    obtain ⟨extension, found⟩ := (Table.mem_keys_iff_get? _ name).1 (SortedList.mem_ofList.1 mem)
    rw [found, Option.map_some, (named name extension found).1]
  rw [toList, List.map_filterMap, List.filterMap_congr known, List.filterMap_some]

omit named in
theorem nodup_names (registry : Registry) : registry.names.Nodup :=
  (SortedList.ofList registry.extensions.keys).sorted.imp fun less same => by simp [same] at less

/-- The extensions of other names, together with an extension, are found as if it had been put in the place of the one
of its name. -/
theorem WellNamed.exists_ofList (extension : Extension) : ∃ scope,
    ofList ((registry.toList.filter fun other => other.name != extension.name) ++ [extension]) = .ok scope ∧
      ∀ name, scope.extensions.get? name = (registry.replacing extension).extensions.get? name := by
  have distinct : (((registry.toList.filter fun other => other.name != extension.name) ++ [extension]).map
      Extension.name).Nodup := by
    rw [List.map_append, List.map_singleton, List.nodup_append]
    refine ⟨?_, List.nodup_singleton _, ?_⟩
    · refine (List.filter_sublist.map Extension.name).nodup ?_
      rw [named.map_name_toList]
      exact registry.nodup_names
    · intro name mem other single
      obtain ⟨owner, kept, rfl⟩ := List.mem_map.1 mem
      rw [List.mem_singleton.1 single]
      exact bne_iff_ne.1 (List.mem_filter.1 kept).2
  refine ⟨_, ofList_eq distinct, fun name => Option.ext fun found => ?_⟩
  rw [get?_ofList distinct, replacing, Table.get?_insert_eq, List.mem_append, List.mem_filter, named.mem_toList,
    bne_iff_ne, List.mem_singleton]
  split
  · rename_i here
    rw [here, Option.some.injEq]
    constructor
    · rintro ⟨⟨-, apart⟩ | same, isName⟩
      · exact absurd isName apart
      · exact same.symm
    · rintro rfl
      exact ⟨.inr rfl, rfl⟩
  · rename_i elsewhere
    constructor
    · rintro ⟨⟨held, -⟩ | rfl, rfl⟩
      · exact held
      · exact absurd rfl elsewhere
    · intro held
      obtain ⟨rfl, -⟩ := named name found held
      exact ⟨.inl ⟨held, elsewhere⟩, rfl⟩

end

/-- Types are looked up in the extension of a name, and only among its types. -/
theorem getType_congr {registry other : Registry}
    (same : ∀ name,
      (registry.extensions.get? name).map Extension.types = (other.extensions.get? name).map Extension.types)
    (extension name : String) : registry.getType extension name = other.getType extension name := by
  have owners := same extension
  rw [getType, getType, get, get]
  cases first : registry.extensions.get? extension with
  | none =>
    rw [first] at owners
    rw [Option.map_eq_none_iff.1 owners.symm]
  | some owner =>
    rw [first] at owners
    obtain ⟨owner', second, types⟩ := Option.map_eq_some_iff.1 owners.symm
    rw [second]
    simp only [pure_eq, ok_bind, types]

end Registry

/-- What is resolved in a registry is resolved in all others that define the same types. -/
theorem resolved_of_getType {registry other : Registry}
    (same : ∀ extension name, registry.getType extension name = other.getType extension name) :
    (∀ ty : Ty, ty.Resolved registry → ty.Resolved other) ∧
      ∀ arg : Arg, arg.Resolved registry → arg.Resolved other := by
  refine Ty.induction ?custom ?sum ?tuple ?function ?var ?type ?nat ?string ?extensions ?sequence ?argVar
  case custom =>
    intro extension name args bound boundFrom ih resolved
    rw [Ty.Resolved, Arg.allResolved_iff, Registry.instantiateType, same] at resolved
    rw [Ty.Resolved, Arg.allResolved_iff]
    exact ⟨fun arg mem => ih arg mem (resolved.1 arg mem), resolved.2⟩
  case sum =>
    intro variants ih resolved
    rw [Ty.Resolved, Row.allResolved_iff] at resolved ⊢
    exact fun row listed ty mem => ih row listed ty mem (resolved row listed ty mem)
  case tuple =>
    intro row ih resolved
    rw [Ty.Resolved, Row.resolved_iff] at resolved ⊢
    exact fun ty mem => ih ty mem (resolved ty mem)
  case function =>
    intro input output reqs inputs outputs resolved
    rw [Ty.Resolved, Row.resolved_iff, Row.resolved_iff] at resolved ⊢
    exact ⟨fun ty mem => inputs ty mem (resolved.1 ty mem), fun ty mem => outputs ty mem (resolved.2.1 ty mem),
      resolved.2.2⟩
  case type =>
    intro ty ih resolved
    rw [Arg.Resolved] at resolved ⊢
    exact ih resolved
  case sequence =>
    intro elems ih resolved
    rw [Arg.Resolved, Arg.allResolved_iff] at resolved ⊢
    exact fun elem mem => ih elem mem (resolved elem mem)
  case extensions =>
    intro set resolved
    rw [Arg.Resolved] at resolved ⊢
    exact resolved
  case var =>
    intro index bound _
    rw [Ty.Resolved]
    trivial
  case nat | string | argVar =>
    intros
    rw [Arg.Resolved]
    trivial

/-! ### Values -/

section

variable {registry : Registry}

mutual

/-- The types in a constant are parts of the type that it inhabits. -/
theorem Value.Inhabits.resolved : ∀ {value : Value} {ty : Ty}, value.Inhabits ty → ty.Resolved registry →
    value.Resolved registry
  | _, _, .sum _ found elements, resolved => by
    rw [Ty.Resolved, Row.allResolved_iff] at resolved
    rw [Value.Resolved]
    exact elements.resolved (resolved _ (List.mem_of_getElem? found))
  | _, _, .tuple elements, resolved => by
    rw [Ty.Resolved, Row.resolved_iff] at resolved
    rw [Value.Resolved]
    exact elements.resolved resolved
  | _, _, .extension, resolved => by
    rw [Value.Resolved]
    exact resolved

theorem Value.AllInhabit.resolved : ∀ {values : List Value} {row : Row}, Value.AllInhabit values row →
    (∀ ty ∈ row, ty.Resolved registry) → Value.AllResolved registry values
  | _, _, .nil, _ => by
    rw [Value.AllResolved]
    trivial
  | _, _, .cons first rest, resolved => by
    rw [List.forall_mem_cons] at resolved
    rw [Value.AllResolved]
    exact ⟨first.resolved resolved.1, rest.resolved resolved.2⟩

end

end

/-! ### Descriptors -/

theorem TypeDef.boundRule_encode (definition : TypeDef) : definition.encode.boundRule = definition.bound := by
  cases rule : definition.bound <;> simp [TypeDefDoc.boundRule, encode, boundFrom?, rule]

theorem OpDef.encode_declared (definition : OpDef) : definition.declared.encode = definition.encode := by
  cases rule : definition.rule <;> simp [OpDef.encode, declared, SignatureRule.declared, rule]

namespace Extension

variable {extension : Extension}

theorem mem_operations_declared {entry : String × OpDef} (mem : entry ∈ extension.declared.operations.entries) :
    ∃ definition, extension.operations.get? entry.1 = some definition ∧ entry.2 = definition.declared := by
  obtain ⟨⟨name, definition⟩, listed, rfl⟩ := List.mem_map.1 mem
  exact ⟨definition, (Table.get?_eq_some_iff _ _ _).2 listed, rfl⟩

theorem addType_eq {name description : String} {params : List Param} {bound : BoundRule}
    (isName : Text.isIdentifier name = true) (fresh : name ∉ extension.types.keys) :
    extension.addType name params description bound = .ok { extension with
      types := extension.types.insert name ⟨extension.name, name, params, description, bound⟩ } := by
  rw [addType, checkMember_eq_ok_iff.2 ⟨isName, fresh⟩]
  rfl

theorem addOp_eq {name description : String} {rule : SignatureRule} {misc : List (String × Json)}
    (isName : Text.isIdentifier name = true) (fresh : name ∉ extension.operations.keys) :
    extension.addOp name rule description misc = .ok { extension with
      operations := extension.operations.insert name ⟨extension.name, name, rule, description, misc⟩ } := by
  rw [addOp, checkMember_eq_ok_iff.2 ⟨isName, fresh⟩]
  rfl

theorem addValue_eq {name : String} {value : Value} {typ : Ty} (isName : Text.isIdentifier name = true)
    (fresh : name ∉ extension.values.keys) (inhabits : value.check typ = .ok ()) :
    extension.addValue name value typ = .ok { extension with
      values := extension.values.insert name ⟨extension.name, name, value, typ⟩ } := by
  rw [addValue, checkMember_eq_ok_iff.2 ⟨isName, fresh⟩, ok_bind, inhabits]
  rfl

section

variable (checked : extension.Checked) (named : extension.WellNamed)

include checked named

/-- The types come first. -/
theorem foldlM_addType :
    (extension.types.values.map TypeDef.encode).foldlM ExtensionDoc.addType
        { extension with types := ∅, operations := ∅, values := ∅ } =
      .ok { extension with operations := ∅, values := ∅ } := by
  rw [Table.values, List.map_map]
  refine @foldlM_members _ _ extension.types _ ExtensionDoc.addType
    (fun types => { extension with types := types, operations := ∅, values := ∅ }) ?_
  rintro done ⟨name, owner, own, params, description, bound⟩ mem fresh
  have isName := checked.types name (List.mem_map_of_mem mem)
  obtain ⟨rfl, rfl⟩ : owner = extension.name ∧ own = name := named.types name _ ((Table.get?_eq_some_iff _ _ _).2 mem)
  rw [Function.comp_apply, ExtensionDoc.addType, TypeDef.boundRule_encode]
  exact addType_eq isName fresh

/-- Then come the operations, whose signatures are read where all types are known. -/
theorem foldlM_addOp {scope : Registry}
    (resolved : ∀ name definition scheme, extension.operations.get? name = some definition →
      definition.rule = .fixed scheme → scheme.Resolved scope) :
    (extension.operations.values.map OpDef.encode).foldlM (ExtensionDoc.addOp scope)
        { extension with operations := ∅, values := ∅ } =
      .ok { extension.declared with values := ∅ } := by
  -- a rule that is not told leaves no trace in the descriptor either
  have docs : extension.operations.values.map OpDef.encode =
      extension.declared.operations.entries.map fun entry => entry.2.encode := by
    simp only [Table.values, declared, Table.mapValues, List.map_map]
    exact List.map_congr_left fun entry _ => (OpDef.encode_declared entry.2).symm
  rw [docs]
  refine @foldlM_members _ _ extension.declared.operations _ (ExtensionDoc.addOp scope)
    (fun operations => { extension with operations := operations, values := ∅ }) ?_
  rintro done ⟨name, declaration⟩ mem fresh
  obtain ⟨⟨owner, own, rule, description, misc⟩, found, rfl⟩ := mem_operations_declared mem
  have isName := checked.operations name (Table.mem_keys_of_get? found)
  obtain ⟨rfl, rfl⟩ : owner = extension.name ∧ own = name := named.operations name _ found
  cases rule with
  | fixed scheme =>
    have read : scheme.encode.decode scope = .ok scheme := Scheme.decode_encode (resolved own _ scheme found rfl)
    change (scheme.encode.decode scope >>= fun scheme => _) = _
    rw [read, ok_bind]
    exact addOp_eq isName fresh
  | absent | computed rule => exact addOp_eq isName fresh

end

/-- Last come the values, which have inhabited their types before. -/
theorem foldlM_addValue (checked : extension.Checked) {scope : Registry}
    (resolved : ∀ name named, extension.values.get? name = some named → named.typ.Resolved scope) :
    ∃ docs, extension.values.values.mapM NamedValue.encode = .ok docs ∧
      docs.foldlM (ExtensionDoc.addValue scope) { extension with values := ∅ } = .ok extension := by
  have each : ∀ entry ∈ extension.values.entries, ∃ doc : NamedValueDoc, entry.2.encode = .ok doc ∧
      doc.name = entry.1 ∧ doc.value.decode scope = .ok entry.2.value ∧ doc.typ.decode scope = .ok entry.2.typ := by
    rintro ⟨name, named⟩ mem
    have found := (Table.get?_eq_some_iff _ _ _).2 mem
    obtain ⟨-, -, ofName, inhabits⟩ := checked.values name named found
    have typed := resolved name named found
    obtain ⟨doc, encoded, decoded⟩ := Value.decode_encode ((Value.check_eq_ok_iff.1 inhabits).resolved typed)
    refine ⟨⟨named.name, doc, named.typ.encode⟩, ?_, ofName, decoded, Ty.decode_encode typed⟩
    rw [NamedValue.encode, encoded]
    rfl
  have : Nonempty NamedValueDoc := ⟨⟨"", default, default⟩⟩
  choose! doc encoded ofName value typ using each
  refine ⟨extension.values.entries.map doc, ?_, ?_⟩
  · rw [Table.values, List.mapM_map]
    exact mapM_of_forall encoded
  · refine @foldlM_members _ _ extension.values _ (ExtensionDoc.addValue scope)
      (fun values => { extension with values := values }) ?_
    intro done entry mem fresh
    rw [ExtensionDoc.addValue, value entry mem, ok_bind, typ entry mem, ok_bind, ofName entry mem]
    obtain ⟨name, owner, own, constant, ty⟩ := entry
    obtain ⟨isName, rfl, rfl, inhabits⟩ : Text.isIdentifier name = true ∧ owner = extension.name ∧ own = name ∧
      constant.check ty = .ok () := checked.values name _ ((Table.get?_eq_some_iff _ _ _).2 mem)
    exact addValue_eq isName fresh inhabits

/-- An array of so many of these. -/
def array (count : Arg) (item : Ty) : Ty := .custom "collections" "Array" [count, .type item] item.bound (some [1])

def queue : Ty := .custom "collections" "Queue" [] .linear none

/-- Any array becomes a queue. -/
def joining : Scheme where
  params := [.nat none, .type .linear, .extensions]
  body := ⟨[array (.var 0 (.nat none)) (.var 1 .linear)], [queue], .ofVariable 2⟩

def primes : Value := .tuple [.extension (array (.nat 2) Standard.usize) (.arr [.int 2, .int 3])]

def primesType : Ty := .tuple [array (.nat 2) Standard.usize]

/-- A later version of the arrays, with queues, operations with either kind of rule and an array of numbers. -/
def sequences : Extension where
  name := "collections"
  version := "0.2.0"
  reqs := .ofName "prelude"
  description := "Arrays and queues"
  types := .ofList [
    ("Array", ⟨"collections", "Array", [.nat none, .type .linear], "", .fromArgs [1]⟩),
    ("Queue", ⟨"collections", "Queue", [], "First in, first out", .fixed .linear⟩)]
  operations := .ofList [
    ("Zip", ⟨"collections", "Zip", .computed Standard.naryRule, "", []⟩),
    ("Join", ⟨"collections", "Join", .fixed joining, "", [("lossless", .bool true)]⟩)]
  values := .ofList [("Primes", ⟨"collections", "Primes", primes, primesType⟩)]

theorem constructed_sequences : sequences.Constructed := by
  have built : (do
      let extension ← create "collections" "0.2.0" (.ofName "prelude") "Arrays and queues"
      let extension ← extension.addType "Array" [.nat none, .type .linear] "" (.fromArgs [1])
      let extension ← extension.addType "Queue" [] "First in, first out" (.fixed .linear)
      let extension ← extension.addOp "Zip" (.computed Standard.naryRule) "" []
      let extension ← extension.addOp "Join" (.fixed joining) "" [("lossless", .bool true)]
      extension.addValue "Primes" primes primesType) = .ok sequences := by with_unfolding_all rfl
  obtain ⟨_, created, built⟩ := bind_eq_ok_iff.1 built
  obtain ⟨_, first, built⟩ := bind_eq_ok_iff.1 built
  obtain ⟨_, second, built⟩ := bind_eq_ok_iff.1 built
  obtain ⟨_, third, built⟩ := bind_eq_ok_iff.1 built
  obtain ⟨_, fourth, fifth⟩ := bind_eq_ok_iff.1 built
  exact .addValue (.addOp (.addOp (.addType (.addType (.create created) first) second) third) fourth) fifth

/-- The registry still holds the earlier version, which has no queues. -/
theorem resolved_sequences : sequences.Resolved (collected.replacing sequences) := by
  have resolvedQueue : queue.Resolved (collected.replacing sequences) := by
    rw [queue, Ty.Resolved, Arg.AllResolved]
    exact ⟨trivial, by with_unfolding_all rfl⟩
  have generic : (array (.var 0 (.nat none)) (.var 1 .linear)).Resolved (collected.replacing sequences) := by
    simp only [array, Ty.Resolved, Arg.AllResolved, Arg.Resolved, true_and]
    with_unfolding_all rfl
  have numbers : (array (.nat 2) Standard.usize).Resolved (collected.replacing sequences) := by
    simp only [array, Standard.usize, Ty.Resolved, Arg.AllResolved, Arg.Resolved, true_and, and_true]
    exact ⟨by with_unfolding_all rfl, by with_unfolding_all rfl⟩
  have prelude : ExtensionSet.ofStrings ["prelude"] = .ok sequences.reqs := by with_unfolding_all rfl
  have required : ExtensionSet.ofStrings ["2"] = .ok joining.body.reqs := by with_unfolding_all rfl
  refine ⟨ExtensionSet.isNamed_of_ofStrings prelude, fun name definition scheme found isFixed => ?_,
    fun name named found => ?_⟩
  · have mem := (Table.get?_eq_some_iff _ _ _).1 found
    rw [sequences, Table.entries_ofList (by decide)] at mem
    simp only [List.mem_cons, Prod.mk.injEq, List.not_mem_nil, or_false] at mem
    rcases mem with ⟨-, rfl⟩ | ⟨-, rfl⟩
    · cases isFixed
    · cases isFixed
      exact ⟨⟨generic, trivial⟩, ⟨resolvedQueue, trivial⟩, ExtensionSet.isNamed_of_ofStrings required⟩
  · have isPrimes := congrArg Prod.snd (List.mem_singleton.1 ((Table.get?_eq_some_iff _ _ _).1 found))
    dsimp only at isPrimes
    rw [isPrimes, primesType, Ty.Resolved]
    exact ⟨numbers, trivial⟩

end Extension

end NestedFlow
