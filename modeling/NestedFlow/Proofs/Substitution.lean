import NestedFlow.Extension.Standard
import NestedFlow.Proofs.Arguments

/-! Substitution in types and arguments.

The result of a substitution has the parts of the original, each with the arguments in place of its variables. Bounds
only narrow: every use of a variable is checked against the bound that it records, and the bound of a custom type is
computed anew. So an argument still fits where it fitted before.
-/

set_option autoImplicit false

namespace NestedFlow

open Outcome

/-- What holds of every type and every argument whose parts it holds of. -/
theorem Ty.induction {P : Ty → Prop} {Q : Arg → Prop}
    (custom : ∀ extension name args bound boundFrom, (∀ arg ∈ args, Q arg) →
      P (.custom extension name args bound boundFrom))
    (sum : ∀ variants, (∀ row ∈ variants, ∀ ty ∈ row, P ty) → P (.sum variants))
    (tuple : ∀ row, (∀ ty ∈ row, P ty) → P (.tuple row))
    (function : ∀ input output reqs, (∀ ty ∈ input, P ty) → (∀ ty ∈ output, P ty) → P (.function input output reqs))
    (var : ∀ index bound, P (.var index bound))
    (type : ∀ ty, P ty → Q (.type ty))
    (nat : ∀ value, Q (.nat value))
    (string : ∀ value, Q (.string value))
    (extensions : ∀ set, Q (.extensions set))
    (sequence : ∀ elems, (∀ elem ∈ elems, Q elem) → Q (.sequence elems))
    (argVar : ∀ index param, Q (.var index param)) : (∀ ty, P ty) ∧ ∀ arg, Q arg := by
  have noArgs : ∀ arg ∈ ([] : List Arg), Q arg := List.forall_mem_nil Q
  have noRows : ∀ row ∈ ([] : List Row), ∀ ty ∈ row, P ty := List.forall_mem_nil _
  have noTypes : ∀ ty ∈ ([] : Row), P ty := List.forall_mem_nil P
  -- the recursor has one motive for each kind of list, and each of them says that its members are as they should be
  let ofArgs (args : List Arg) := ∀ arg ∈ args, Q arg
  let ofRows (rows : List Row) := ∀ row ∈ rows, ∀ ty ∈ row, P ty
  let ofTypes (row : Row) := ∀ ty ∈ row, P ty
  constructor
  · exact @Ty.rec P Q ofArgs ofRows ofTypes custom sum tuple function var type nat string extensions sequence argVar
      noArgs (fun _ _ first rest => List.forall_mem_cons.2 ⟨first, rest⟩)
      noRows (fun _ _ first rest => List.forall_mem_cons.2 ⟨first, rest⟩)
      noTypes (fun _ _ first rest => List.forall_mem_cons.2 ⟨first, rest⟩)
  · exact @Arg.rec P Q ofArgs ofRows ofTypes custom sum tuple function var type nat string extensions sequence argVar
      noArgs (fun _ _ first rest => List.forall_mem_cons.2 ⟨first, rest⟩)
      noRows (fun _ _ first rest => List.forall_mem_cons.2 ⟨first, rest⟩)
      noTypes (fun _ _ first rest => List.forall_mem_cons.2 ⟨first, rest⟩)

/-! ### The bound of a custom type -/

/-- The bound of a custom type at given arguments: its own, unless it is taken from the arguments. -/
def recordedBound (args : List Arg) (bound : Bound) : Option (List Int) → Outcome Bound
  | none => .ok bound
  | some positions => derivedBound args positions

section

variable {args : List Arg} {bound derived : Bound} {boundFrom : Option (List Int)}

theorem Ty.instance?_eq (extension name : String) :
    Ty.instance? extension name args bound boundFrom =
      (recordedBound args bound boundFrom >>= fun derived => .ok (.custom extension name args derived boundFrom)) := by
  cases boundFrom <;> rfl

/-- Where a bound came about for some arguments, it may be recorded in the place of the earlier one. -/
theorem recordedBound_congr (recorded : recordedBound args bound boundFrom = .ok derived) (others : List Arg) :
    recordedBound others derived boundFrom = recordedBound others bound boundFrom := by
  cases boundFrom with
  | none => exact recorded.symm
  | some positions => rfl

/-- An instance of a definition has the bound that the definition gives. -/
theorem TypeDef.recordedBound_eq {definition : TypeDef} (rule : definition.boundFrom? = boundFrom)
    (recorded : definition.boundFor args = .ok bound) (others : List Arg) :
    recordedBound others bound boundFrom = definition.boundFor others := by
  rw [TypeDef.boundFrom?] at rule
  rw [TypeDef.boundFor] at recorded ⊢
  cases own : definition.bound with
  | fixed fixed =>
    rw [own] at rule recorded
    rw [← rule]
    exact recorded.symm
  | fromArgs positions =>
    rw [own] at rule
    rw [← rule]
    rfl

end

mutual

/-- A type as it can be made: all custom types in it have the bound that their arguments give, where it is taken from
these. -/
inductive Ty.IsBuilt : Ty → Prop where
  | custom {extension name : String} {args : List Arg} {bound : Bound} {boundFrom : Option (List Int)}
      (parts : ∀ arg ∈ args, Arg.IsBuilt arg) (recorded : recordedBound args bound boundFrom = .ok bound) :
      Ty.IsBuilt (.custom extension name args bound boundFrom)
  | sum {variants : List Row} (parts : ∀ row ∈ variants, ∀ ty ∈ row, Ty.IsBuilt ty) : Ty.IsBuilt (.sum variants)
  | tuple {row : Row} (parts : ∀ ty ∈ row, Ty.IsBuilt ty) : Ty.IsBuilt (.tuple row)
  | function {input output : Row} {reqs : ExtensionSet} (inputs : ∀ ty ∈ input, Ty.IsBuilt ty)
      (outputs : ∀ ty ∈ output, Ty.IsBuilt ty) : Ty.IsBuilt (.function input output reqs)
  | var (index : Int) (bound : Bound) : Ty.IsBuilt (.var index bound)

inductive Arg.IsBuilt : Arg → Prop where
  | type {ty : Ty} (inner : Ty.IsBuilt ty) : Arg.IsBuilt (.type ty)
  | nat (value : Int) : Arg.IsBuilt (.nat value)
  | string (value : String) : Arg.IsBuilt (.string value)
  | extensions (set : ExtensionSet) : Arg.IsBuilt (.extensions set)
  | sequence {elems : List Arg} (parts : ∀ elem ∈ elems, Arg.IsBuilt elem) : Arg.IsBuilt (.sequence elems)
  | var (index : Int) (param : Param) : Arg.IsBuilt (.var index param)

end

/-- Custom types come from `Ty.instance?`, which records the bound that the arguments give. -/
theorem Ty.isBuilt_of_instance? {extension name : String} {args : List Arg} {bound : Bound}
    {boundFrom : Option (List Int)} {ty : Ty} (parts : ∀ arg ∈ args, arg.IsBuilt)
    (made : Ty.instance? extension name args bound boundFrom = .ok ty) : ty.IsBuilt := by
  rw [Ty.instance?_eq] at made
  obtain ⟨derived, recorded, made⟩ := bind_eq_ok_iff.1 made
  cases made
  exact .custom parts ((recordedBound_congr recorded args).trans recorded)

/-! ### Sets of extensions -/

namespace ExtensionSet

variable {args : List Arg} {set given : ExtensionSet}

/-- The set that an argument gives for a variable. -/
def standsFor (args : List Arg) (index : Int) : Outcome ExtensionSet := do
  let arg ← argumentFor args index .extensions
  arg.asExtensions

theorem substVariables_cons {index : Int} {rest : List Int} :
    substVariables args (index :: rest) set =
      (standsFor args index >>= fun part => substVariables args rest (set.union part)) := by
  rw [substVariables, standsFor, bind_assoc]

theorem substVariables_eq_ok_iff {indices : List Int} :
    substVariables args indices set = .ok given ↔
      ∃ parts, List.Forall₂ (fun index part => standsFor args index = .ok part) indices parts ∧
        given = parts.foldl union set := by
  induction indices generalizing set with
  | nil => simp [substVariables, eq_comm]
  | cons index rest ih =>
    simp only [substVariables_cons, bind_eq_ok_iff, ih, List.forall₂_cons_left_iff]
    constructor
    · rintro ⟨part, first, parts, others, rfl⟩
      exact ⟨part :: parts, ⟨part, parts, first, others, rfl⟩, rfl⟩
    · rintro ⟨_, ⟨part, parts, first, others, rfl⟩, rfl⟩
      exact ⟨part, first, parts, others, rfl⟩

/-- What is in a union of many sets is in one of them. -/
theorem foldl_union_iff (member : ExtensionSet → Prop)
    (additive : ∀ left right, member (left.union right) ↔ member left ∨ member right) {parts : List ExtensionSet} :
    member (parts.foldl union set) ↔ member set ∨ ∃ part ∈ parts, member part := by
  induction parts generalizing set with
  | nil => simp
  | cons part rest ih => rw [List.foldl_cons, ih, additive, List.exists_mem_cons_iff, or_assoc]

theorem ext_mem {left right : ExtensionSet} (names : ∀ name, name ∈ left.names ↔ name ∈ right.names)
    (indices : ∀ index, index ∈ left.indices ↔ index ∈ right.indices) : left = right := by
  cases left
  cases right
  rw [mk.injEq]
  exact ⟨SortedList.ext_mem names, SortedList.ext_mem indices⟩

/-- Substitution keeps the names of a set, and puts other sets in the place of its variables. -/
theorem subst_eq_ok_iff :
    set.subst args = .ok given ↔ (∀ index ∈ set.indices, ∃ part, standsFor args index = .ok part) ∧
      (∀ name, name ∈ given.names ↔
        name ∈ set.names ∨ ∃ index ∈ set.indices, ∃ part, standsFor args index = .ok part ∧ name ∈ part.names) ∧
      ∀ other, other ∈ given.indices ↔
        ∃ index ∈ set.indices, ∃ part, standsFor args index = .ok part ∧ other ∈ part.indices := by
  have members : ∀ {parts : List ExtensionSet},
      List.Forall₂ (fun index part => standsFor args index = .ok part) set.indices.toList parts →
      (∀ name, name ∈ (parts.foldl union ⟨set.names, ∅⟩).names ↔
        name ∈ set.names ∨ ∃ index ∈ set.indices, ∃ part, standsFor args index = .ok part ∧ name ∈ part.names) ∧
      ∀ other, other ∈ (parts.foldl union ⟨set.names, ∅⟩).indices ↔
        ∃ index ∈ set.indices, ∃ part, standsFor args index = .ok part ∧ other ∈ part.indices := by
    intro parts answered
    refine ⟨fun name => ?_, fun other => ?_⟩
    · rw [foldl_union_iff (fun set => name ∈ set.names) fun _ _ => SortedList.mem_union, exists_answer_iff answered]
      rfl
    · rw [foldl_union_iff (fun set => other ∈ set.indices) fun _ _ => SortedList.mem_union, exists_answer_iff answered]
      exact or_iff_right List.not_mem_nil
  rw [subst, substVariables_eq_ok_iff]
  constructor
  · rintro ⟨parts, answered, rfl⟩
    refine ⟨fun index mem => ?_, members answered⟩
    obtain ⟨part, -, found⟩ := exists_of_forall₂ answered.flip mem
    exact ⟨part, found⟩
  · rintro ⟨each, names, indices⟩
    obtain ⟨parts, answered⟩ := exists_forall₂ each
    refine ⟨parts, answered, ext_mem (fun name => ?_) fun index => ?_⟩
    · rw [names, (members answered).1]
    · rw [indices, (members answered).2]

/-- Substitution respects unions. -/
theorem subst_union {left right first second : ExtensionSet} (ofLeft : left.subst args = .ok first)
    (ofRight : right.subst args = .ok second) : (left.union right).subst args = .ok (first.union second) := by
  rw [subst_eq_ok_iff] at ofLeft ofRight ⊢
  obtain ⟨leftKnown, leftNames, leftIndices⟩ := ofLeft
  obtain ⟨rightKnown, rightNames, rightIndices⟩ := ofRight
  simp only [union, SortedList.mem_union, leftNames, leftIndices, rightNames, rightIndices]
  refine ⟨fun index mem => mem.elim (leftKnown index) (rightKnown index), fun name => ?_, fun index => ?_⟩
  · simp only [or_and_right, exists_or]
    exact or_or_or_comm
  · simp only [or_and_right, exists_or]

end ExtensionSet

/-! ### Results of substitutions -/

section

variable {args : List Arg}

theorem Row.subst_eq_ok_iff {row given : Row} :
    Row.subst args row = .ok given ↔ List.Forall₂ (fun ty made => ty.subst args = .ok made) row given := by
  have mapped : Row.subst args row = row.mapM (Ty.subst args) := by
    induction row with
    | nil => rw [Row.subst, List.mapM_nil]
    | cons ty rest ih => rw [Row.subst, List.mapM_cons, ih]
  rw [mapped, mapM_eq_ok_iff_forall₂]

theorem Row.substAll_eq_ok_iff {rows given : List Row} :
    Row.substAll args rows = .ok given ↔
      List.Forall₂ (List.Forall₂ fun ty made => ty.subst args = .ok made) rows given := by
  have mapped : Row.substAll args rows = rows.mapM (Row.subst args) := by
    induction rows with
    | nil => rw [Row.substAll, List.mapM_nil]
    | cons row rest ih => rw [Row.substAll, List.mapM_cons, ih]
  simp only [mapped, mapM_eq_ok_iff_forall₂, Row.subst_eq_ok_iff]

theorem Arg.substAll_eq_ok_iff {own given : List Arg} :
    Arg.substAll args own = .ok given ↔ List.Forall₂ (fun arg made => arg.subst args = .ok made) own given := by
  have mapped : Arg.substAll args own = own.mapM (Arg.subst args) := by
    induction own with
    | nil => rw [Arg.substAll, List.mapM_nil]
    | cons arg rest ih => rw [Arg.substAll, List.mapM_cons, ih]
  rw [mapped, mapM_eq_ok_iff_forall₂]

namespace Ty

variable {given : Ty}

/-- Without arguments a custom type stays as it is, which is the same as computing its bound again. -/
theorem subst_custom_iff {extension name : String} {own : List Arg} {bound : Bound} {boundFrom : Option (List Int)}
    (recorded : recordedBound own bound boundFrom = .ok bound) :
    (custom extension name own bound boundFrom).subst args = .ok given ↔
      ∃ made derived, given = .custom extension name made derived boundFrom ∧
        List.Forall₂ (fun arg made => arg.subst args = .ok made) own made ∧
        recordedBound made bound boundFrom = .ok derived := by
  cases own with
  | nil =>
    simp only [Ty.subst, pure_eq, Except.ok.injEq, List.forall₂_nil_left_iff]
    constructor
    · rintro rfl
      exact ⟨[], bound, rfl, rfl, recorded⟩
    · rintro ⟨_, derived, rfl, rfl, again⟩
      rw [recorded, Except.ok.injEq] at again
      rw [again]
  | cons first rest =>
    rw [Ty.subst, bind_eq_ok_iff]
    · simp only [Arg.substAll_eq_ok_iff, Ty.instance?_eq, bind_eq_ok_iff, Except.ok.injEq]
      constructor
      · rintro ⟨made, parts, derived, again, rfl⟩
        exact ⟨made, derived, rfl, parts, again⟩
      · rintro ⟨made, derived, rfl, parts, again⟩
        exact ⟨made, parts, derived, again, rfl⟩
    · intro same
      cases same

theorem subst_sum_iff {variants : List Row} :
    (sum variants).subst args = .ok given ↔
      ∃ rows, given = .sum rows ∧
        List.Forall₂ (List.Forall₂ fun ty made => ty.subst args = .ok made) variants rows := by
  simp only [Ty.subst, bind_eq_ok_iff, Row.substAll_eq_ok_iff, pure_eq, Except.ok.injEq]
  exact exists_congr fun rows => and_comm.trans (and_congr_left' eq_comm)

theorem subst_tuple_iff {row : Row} :
    (tuple row).subst args = .ok given ↔
      ∃ types, given = .tuple types ∧ List.Forall₂ (fun ty made => ty.subst args = .ok made) row types := by
  simp only [Ty.subst, bind_eq_ok_iff, Row.subst_eq_ok_iff, pure_eq, Except.ok.injEq]
  exact exists_congr fun types => and_comm.trans (and_congr_left' eq_comm)

theorem subst_function_iff {input output : Row} {reqs : ExtensionSet} :
    (function input output reqs).subst args = .ok given ↔
      ∃ inputs outputs set, given = .function inputs outputs set ∧
        List.Forall₂ (fun ty made => ty.subst args = .ok made) input inputs ∧
        List.Forall₂ (fun ty made => ty.subst args = .ok made) output outputs ∧ reqs.subst args = .ok set := by
  simp only [Ty.subst, bind_eq_ok_iff, Row.subst_eq_ok_iff, pure_eq, Except.ok.injEq]
  constructor
  · rintro ⟨inputs, first, outputs, second, set, third, rfl⟩
    exact ⟨inputs, outputs, set, rfl, first, second, third⟩
  · rintro ⟨inputs, outputs, set, rfl, first, second, third⟩
    exact ⟨inputs, first, outputs, second, set, third, rfl⟩

theorem subst_var_iff {index : Int} {bound : Bound} :
    (var index bound).subst args = .ok given ↔ argumentFor args index (.type bound) = .ok (.type given) := by
  rw [Ty.subst, bind_eq_ok_iff]
  constructor
  · rintro ⟨arg, asked, isType⟩
    cases arg with
    | type ty =>
      cases isType
      exact asked
    | _ => cases isType
  · exact fun asked => ⟨_, asked, rfl⟩

end Ty

namespace Arg

variable {given : Arg}

theorem subst_type_iff {ty : Ty} :
    (type ty).subst args = .ok given ↔ ∃ made, given = .type made ∧ ty.subst args = .ok made := by
  simp only [Arg.subst, bind_eq_ok_iff, pure_eq, Except.ok.injEq]
  exact exists_congr fun made => and_comm.trans (and_congr_left' eq_comm)

theorem subst_extensions_iff {set : ExtensionSet} :
    (extensions set).subst args = .ok given ↔ ∃ made, given = .extensions made ∧ set.subst args = .ok made := by
  simp only [Arg.subst, bind_eq_ok_iff, pure_eq, Except.ok.injEq]
  exact exists_congr fun made => and_comm.trans (and_congr_left' eq_comm)

theorem subst_sequence_iff {elems : List Arg} :
    (sequence elems).subst args = .ok given ↔
      ∃ made, given = .sequence made ∧ List.Forall₂ (fun arg made => arg.subst args = .ok made) elems made := by
  simp only [Arg.subst, bind_eq_ok_iff, Arg.substAll_eq_ok_iff, pure_eq, Except.ok.injEq]
  exact exists_congr fun made => and_comm.trans (and_congr_left' eq_comm)

end Arg

end

/-! ### Narrower bounds -/

/-- Where the first argument is a type, so is the second one, which is copyable if the first is. -/
def Arg.Narrows : Arg → Arg → Prop
  | .type ty, .type other => ty.bound.contains other.bound = true
  | .type _, _ => False
  | _, _ => True

theorem Row.contains_bound {row given : Row}
    (narrower : List.Forall₂ (fun ty made : Ty => ty.bound.contains made.bound = true) row given) :
    (Row.bound row).contains (Row.bound given) = true := by
  induction narrower with
  | nil => rfl
  | cons first _ ih => exact Bound.contains_max first ih

theorem Row.contains_boundAll {rows given : List Row}
    (narrower : List.Forall₂ (List.Forall₂ fun ty made : Ty => ty.bound.contains made.bound = true) rows given) :
    (Row.boundAll rows).contains (Row.boundAll given) = true := by
  induction narrower with
  | nil => rfl
  | cons first _ ih => exact Bound.contains_max (Row.contains_bound first) ih

/-- A bound from narrower arguments is narrower: if it was copyable, all types at its positions were. -/
theorem contains_recordedBound {own made : List Arg} (narrower : List.Forall₂ Arg.Narrows own made)
    {bound derived : Bound} {boundFrom : Option (List Int)} (before : recordedBound own bound boundFrom = .ok bound)
    (after : recordedBound made bound boundFrom = .ok derived) : bound.contains derived = true := by
  cases boundFrom with
  | none =>
    cases after
    exact bound.contains_refl
  | some positions =>
    cases bound with
    | linear => rfl
    | copyable =>
      -- the bound was copyable because every position holds a copyable type, which still is one
      have copyable : derivedBound made positions = .ok .copyable := by
        refine derivedBound_eq_copyable_iff.2 fun position mem inside => ?_
        rw [← narrower.length_eq] at inside
        obtain ⟨ty, found, isCopyable⟩ := derivedBound_eq_copyable_iff.1 before position mem inside
        obtain ⟨arg, there, narrows⟩ := itemAt?_of_forall₂ narrower found
        cases arg with
        | type other =>
          rw [Arg.Narrows, isCopyable, Bound.contains, beq_iff_eq] at narrows
          exact ⟨other, there, narrows⟩
        | _ => exact narrows.elim
      rw [recordedBound, copyable] at after
      cases after
      rfl

section

variable {args : List Arg}

/-- Substitution narrows the bounds of types, wherever they stand. -/
theorem narrows_subst :
    (∀ ty : Ty, ty.IsBuilt → ∀ given, ty.subst args = .ok given → ty.bound.contains given.bound = true) ∧
      ∀ arg : Arg, arg.IsBuilt → ∀ given, arg.subst args = .ok given → arg.Narrows given := by
  refine Ty.induction ?custom ?sum ?tuple ?function ?var ?type ?nat ?string ?extensions ?sequence ?argVar
  case custom =>
    intro extension name own bound boundFrom ih built given made
    cases built with | custom parts recorded =>
    obtain ⟨others, derived, rfl, substituted, again⟩ := (Ty.subst_custom_iff recorded).1 made
    refine contains_recordedBound (forall₂_of_mem substituted fun arg mem other made => ?_) recorded again
    exact ih arg mem (parts arg mem) other made
  case sum =>
    intro variants ih built given made
    cases built with | sum parts =>
    obtain ⟨rows, rfl, substituted⟩ := Ty.subst_sum_iff.1 made
    refine Row.contains_boundAll (forall₂_of_mem substituted fun row listed other made => ?_)
    exact forall₂_of_mem made fun ty mem => ih row listed ty mem (parts row listed ty mem)
  case tuple =>
    intro row ih built given made
    cases built with | tuple parts =>
    obtain ⟨types, rfl, substituted⟩ := Ty.subst_tuple_iff.1 made
    exact Row.contains_bound (forall₂_of_mem substituted fun ty mem => ih ty mem (parts ty mem))
  case function =>
    intro input output reqs _ _ _ given made
    obtain ⟨inputs, outputs, set, rfl, -⟩ := Ty.subst_function_iff.1 made
    rfl
  case var =>
    intro index bound _ given made
    -- the argument was checked against the bound that the variable records
    obtain ⟨-, -, fits⟩ := argumentFor_eq_ok_iff.1 (Ty.subst_var_iff.1 made)
    obtain ⟨_, same, contained⟩ := Arg.check_type_iff.1 fits
    cases same
    exact contained
  case type =>
    intro ty ih built given made
    cases built with | type inner =>
    obtain ⟨other, rfl, substituted⟩ := Arg.subst_type_iff.1 made
    exact ih inner other substituted
  all_goals
    intros
    trivial

/-- An argument fits after a substitution where it fitted before. -/
theorem Arg.check_subst : ∀ {arg given : Arg} {param : Param}, arg.IsBuilt → arg.check param = .ok () →
    arg.subst args = .ok given → given.check param = .ok ()
  | .var _ _, _, _, _, fits, made => by
    obtain ⟨-, -, ofDeclared⟩ := argumentFor_eq_ok_iff.1 made
    exact check_of_contains (check_var_iff.1 fits) ofDeclared
  | .type ty, _, _, .type inner, fits, made => by
    obtain ⟨bound, rfl, contained⟩ := check_type_iff.1 fits
    obtain ⟨other, rfl, substituted⟩ := subst_type_iff.1 made
    exact check_type_iff.2 ⟨bound, rfl, Bound.contains_trans contained (narrows_subst.1 ty inner other substituted)⟩
  | .nat _, _, _, _, fits, made | .string _, _, _, _, fits, made => by
    cases made
    exact fits
  | .extensions _, _, _, _, fits, made => by
    obtain ⟨set, rfl, -⟩ := subst_extensions_iff.1 made
    exact check_extensions_iff.2 (check_extensions_iff.1 fits)
  | .sequence elems, _, _, .sequence parts, fits, made => by
    obtain ⟨kind, rfl, each⟩ := check_sequence_iff.1 fits
    obtain ⟨others, rfl, substituted⟩ := subst_sequence_iff.1 made
    refine check_sequence_iff.2 ⟨kind, rfl, fun other isOther => ?_⟩
    obtain ⟨elem, mem, made⟩ := exists_of_forall₂ substituted isOther
    exact check_subst (parts elem mem) (each elem mem) made
termination_by arg => sizeOf arg

/-- So do all arguments of a list. -/
theorem Arg.checkList_subst {own given : List Arg} {params : List Param} (built : ∀ arg ∈ own, arg.IsBuilt)
    (fits : checkList own params = .ok ()) (made : substAll args own = .ok given) :
    checkList given params = .ok () := by
  rw [checkList_eq_ok_iff] at fits ⊢
  have substituted := substAll_eq_ok_iff.1 made
  clear made
  induction substituted generalizing params with
  | nil => exact fits
  | cons made _ ih =>
    rw [List.forall_mem_cons] at built
    cases fits with
    | cons first rest => exact .cons (check_subst built.1 first made) (ih built.2 rest)

end

/-- A type stays within its bound at every substitution, so one that is copyable stays so. -/
theorem Ty.stays_copyable {ty : Ty} (built : ty.IsBuilt) {args : List Arg} {given : Ty}
    (made : ty.subst args = .ok given) :
    ty.bound.contains given.bound = true ∧ (ty.isLinear = false → given.isLinear = false) := by
  have contained := narrows_subst.1 ty built given made
  refine ⟨contained, fun copyable => ?_⟩
  rw [Ty.isLinear, beq_eq_false_iff_ne] at copyable ⊢
  intro linear
  rw [linear] at contained
  cases own : ty.bound with
  | linear => exact copyable own
  | copyable =>
    rw [own] at contained
    cases contained

/-- A pair of copyable values, with a function over a value that may be linear. -/
def pairing : Ty :=
  .tuple [.custom "pairs" "Pair" [.type Standard.usize, .type (.var 1 .copyable)] .copyable (some [0, 1]),
    .function [.var 0 .linear] [.var 1 .copyable] (.ofVariable 2)]

def paired : List Arg := [.type Standard.qubit, .type Standard.bool, .extensions (.ofName "logic")]

theorem Ty.stays_copyable_pairing :
    ∃ given, pairing.subst paired = .ok given ∧ pairing.bound.contains given.bound = true ∧
      given.isLinear = false := by
  have built : pairing.IsBuilt := by
    refine .tuple (List.forall_mem_cons.2 ⟨.custom (List.forall_mem_cons.2 ⟨?_, ?_⟩) rfl, ?_⟩)
    · exact .type (.custom (List.forall_mem_nil _) rfl)
    · exact List.forall_mem_singleton.2 (.type (.var 1 .copyable))
    · refine List.forall_mem_singleton.2 (.function ?_ ?_)
      · exact List.forall_mem_singleton.2 (.var 0 .linear)
      · exact List.forall_mem_singleton.2 (.var 1 .copyable)
  obtain ⟨given, made⟩ : ∃ given, pairing.subst paired = .ok given := ⟨_, rfl⟩
  obtain ⟨contained, stays⟩ := Ty.stays_copyable built made
  exact ⟨given, made, contained, stays rfl⟩

end NestedFlow
