import NestedFlow.Proofs.Extension.Name
import NestedFlow.Proofs.Outcome
import NestedFlow.Proofs.Text.Digit
import NestedFlow.Substitution

/-! Sets of extensions by inclusion, and as lists of texts: the list of a set is read back as that set, unless a name
of the set looks like the index of a variable or an index has no decimal form.
-/

set_option autoImplicit false

namespace NestedFlow

namespace SortedList

variable {α : Type} [LT α] [LE α] [DecidableLT α] [DecidableEq α] [Std.IsLinearOrder α] [Std.LawfulOrderLT α]

/-- The members of a set make up that set again. -/
theorem ofList_toList (set : SortedList α) : ofList set.toList = set := by
  apply ext_mem
  intro member
  rw [mem_ofList, mem_toList]

end SortedList

namespace ExtensionSet

/-! ### Inclusion -/

/-- Every name and every variable of the first set is in the second one. -/
def Included (left right : ExtensionSet) : Prop :=
  (∀ name ∈ left.names, name ∈ right.names) ∧ ∀ index ∈ left.indices, index ∈ right.indices

theorem subset_iff {left right : ExtensionSet} : left.subset right = true ↔ left.Included right := by
  rw [subset, Bool.and_eq_true, SortedList.subset_iff, SortedList.subset_iff, Included]

theorem included_refl (set : ExtensionSet) : set.Included set := ⟨fun _ mem => mem, fun _ mem => mem⟩

theorem Included.trans {first second third : ExtensionSet} (lower : first.Included second)
    (upper : second.Included third) : first.Included third :=
  ⟨fun name mem => upper.1 name (lower.1 name mem), fun index mem => upper.2 index (lower.2 index mem)⟩

theorem empty_included (set : ExtensionSet) : (∅ : ExtensionSet).Included set :=
  ⟨fun _ mem => absurd mem List.not_mem_nil, fun _ mem => absurd mem List.not_mem_nil⟩

theorem union_included_iff {left right set : ExtensionSet} :
    (left.union right).Included set ↔ left.Included set ∧ right.Included set := by
  simp only [Included, union, SortedList.mem_union, or_imp, forall_and]
  tauto

/-- The union of some sets is the least set that includes them all. -/
theorem unionAll_included_iff {sets : List ExtensionSet} {set : ExtensionSet} :
    (unionAll sets).Included set ↔ ∀ part ∈ sets, part.Included set := by
  have folded : ∀ (start : ExtensionSet), (sets.foldl union start).Included set ↔
      start.Included set ∧ ∀ part ∈ sets, part.Included set := by
    induction sets with
    | nil => simp
    | cons first rest ih =>
      intro start
      rw [List.foldl_cons, ih, union_included_iff, List.forall_mem_cons, and_assoc]
  rw [unionAll, folded]
  exact and_iff_right (empty_included set)

theorem included_unionAll {sets : List ExtensionSet} {part : ExtensionSet} (member : part ∈ sets) :
    part.Included (unionAll sets) := unionAll_included_iff.1 (included_refl _) part member

/-! ### Texts -/

/-- Whether a text would be taken for the index of a variable. -/
def isNumeral (name : String) : Bool := (name.toList.head?.map Text.isDigit).getD false

/-- The names do not look like indices, and the indices are natural numbers with a decimal form. -/
structure IsNamed (set : ExtensionSet) : Prop where
  names : ∀ name ∈ set.names, isNumeral name = false
  indices : ∀ index ∈ set.indices, 0 ≤ index ∧ Text.isWritable index = true

/-- The names do not look like indices, and the indices are natural numbers that a limit lets write. -/
structure IsNamedWithin (limit : Text.DigitLimit) (set : ExtensionSet) : Prop where
  names : ∀ name ∈ set.names, isNumeral name = false
  indices : ∀ index ∈ set.indices, 0 ≤ index ∧ limit.writes index = true

theorem isNamedWithin_maxDigits {set : ExtensionSet} : set.IsNamedWithin (some Text.maxDigits) ↔ set.IsNamed := by
  constructor
  · intro named
    exact ⟨named.names, fun index mem => Text.writes_maxDigits index ▸ named.indices index mem⟩
  · intro named
    exact ⟨named.names, fun index mem => (Text.writes_maxDigits index).symm ▸ named.indices index mem⟩

section

variable {limit : Text.DigitLimit}

theorem addEntry_name (set : ExtensionSet) {name : String} (named : isNumeral name = false) :
    set.addEntry limit name = .ok (set.insert name) := by
  rw [isNumeral] at named
  simp only [addEntry, named]
  rfl

theorem addEntry_index (set : ExtensionSet) {index : Int} (natural : 0 ≤ index)
    (written : limit.writes index = true) :
    set.addEntry limit (toString index) = .ok { set with indices := set.indices.insert index } := by
  obtain ⟨n, rfl⟩ := Int.eq_ofNat_of_zero_le natural
  have chars : (toString (n : Int)).toList = Nat.toDigits 10 n := Nat.toList_repr
  have all : (Nat.toDigits 10 n).all Text.isDigit = true :=
    List.all_eq_true.2 fun c mem => Text.isDigit_of_mem_toDigits mem
  have first : ((Nat.toDigits 10 n).head?.map Text.isDigit).getD false = true := by
    cases digits : Nat.toDigits 10 n with
    | nil => exact absurd digits Nat.toDigits_ne_nil
    | cons c rest =>
      have mem : c ∈ Nat.toDigits 10 n := by
        rw [digits]
        exact List.mem_cons_self
      exact Text.isDigit_of_mem_toDigits mem
  simp only [addEntry, chars, first, all, if_true, Text.natOfDigitsWithin?_toDigits written]
  rfl

theorem foldlM_names {names : List String} (named : ∀ name ∈ names, isNumeral name = false) (set : ExtensionSet) :
    names.foldlM (addEntry limit) set = .ok ⟨names.foldl SortedList.insert set.names, set.indices⟩ := by
  induction names generalizing set with
  | nil => rfl
  | cons name rest ih =>
    rw [List.foldlM_cons, addEntry_name set (named name List.mem_cons_self), Outcome.ok_bind]
    exact ih (fun other mem => named other (List.mem_cons_of_mem name mem)) _

theorem foldlM_indices {indices : List Int}
    (natural : ∀ index ∈ indices, 0 ≤ index ∧ limit.writes index = true) (set : ExtensionSet) :
    (indices.map fun index => toString index).foldlM (addEntry limit) set =
      .ok ⟨set.names, indices.foldl SortedList.insert set.indices⟩ := by
  induction indices generalizing set with
  | nil => rfl
  | cons index rest ih =>
    obtain ⟨lower, written⟩ := natural index List.mem_cons_self
    rw [List.map_cons, List.foldlM_cons, addEntry_index set lower written, Outcome.ok_bind]
    exact ih (fun other mem => natural other (List.mem_cons_of_mem index mem)) _

theorem ofStringsWithin_toStrings {set : ExtensionSet} (named : set.IsNamedWithin limit) :
    ofStringsWithin limit set.toStrings = .ok set := by
  have names : set.names.toList.foldl SortedList.insert ∅ = set.names := set.names.ofList_toList
  have indices : set.indices.toList.foldl SortedList.insert ∅ = set.indices := set.indices.ofList_toList
  have rows : set.toStrings.foldlM (addEntry limit) empty =
      (set.names.toList.foldlM (addEntry limit) empty >>= fun begun =>
        (set.indices.toList.map fun index => toString index).foldlM (addEntry limit) begun) := List.foldlM_append
  rw [ofStringsWithin, rows, foldlM_names named.names, Outcome.ok_bind, foldlM_indices named.indices, empty]
  simp only [names, indices]

theorem isNamedWithin_of_addEntry {set new : ExtensionSet} {entry : String} (named : set.IsNamedWithin limit)
    (added : set.addEntry limit entry = .ok new) : new.IsNamedWithin limit := by
  rw [addEntry] at added
  split at added
  · rename_i numeral
    have nonempty : entry.toList ≠ [] := by
      intro none
      rw [none] at numeral
      cases numeral
    split at added
    · split at added
      · rename_i index read
        cases added
        refine ⟨named.names, fun other mem => ?_⟩
        rcases SortedList.mem_insert.1 mem with rfl | old
        · exact ⟨Int.natCast_nonneg index, Text.writes_of_natOfDigitsWithin? nonempty read⟩
        · exact named.indices other old
      · cases added
    · cases added
  · rename_i isName
    cases added
    refine ⟨fun other mem => ?_, named.indices⟩
    rcases SortedList.mem_insert.1 mem with rfl | old
    · exact Bool.eq_false_iff.2 isName
    · exact named.names other old

theorem isNamedWithin_empty : IsNamedWithin limit empty where
  names _ mem := nomatch mem
  indices _ mem := nomatch mem

/-- A set that was read has names and indices that are read back. -/
theorem isNamedWithin_of_ofStringsWithin {entries : List String} {set : ExtensionSet}
    (read : ofStringsWithin limit entries = .ok set) : set.IsNamedWithin limit :=
  Outcome.foldlM_preserves (IsNamedWithin limit) (fun _ _ _ _ named added => isNamedWithin_of_addEntry named added)
    isNamedWithin_empty read

/-- A set is written exactly if every one of its indices is, and then as its list. -/
theorem toStringsWithin_eq_ok_iff {set : ExtensionSet} {listed : List String} :
    set.toStringsWithin limit = .ok listed ↔
      (∀ index ∈ set.indices, limit.writes index = true) ∧ set.toStrings = listed := by
  have each : set.indices.toList.all limit.writes = true ↔ ∀ index ∈ set.indices, limit.writes index = true :=
    List.all_eq_true
  rw [toStringsWithin, ← each]
  cases set.indices.toList.all limit.writes <;> simp [fail]

end

theorem ofStrings_toStrings {set : ExtensionSet} (named : set.IsNamed) : ofStrings set.toStrings = .ok set :=
  ofStringsWithin_toStrings (isNamedWithin_maxDigits.2 named)

theorem isNamed_of_ofStrings {entries : List String} {set : ExtensionSet} (read : ofStrings entries = .ok set) :
    set.IsNamed := isNamedWithin_maxDigits.1 (isNamedWithin_of_ofStringsWithin read)

/-- Names of extensions begin with a letter or an underscore, which are no digits of any script. -/
theorem isNumeral_of_isExtensionName {name : String} (named : isExtensionName name = true) : isNumeral name = false := by
  rw [isExtensionName] at named
  cases begun : withoutFinalBreak name.toList with
  | nil =>
    rw [begun, startsSegment] at named
    cases named
  | cons c rest =>
    rw [begun, startsSegment, Bool.and_eq_true] at named
    have head : name.toList.head? = some c := by
      obtain ⟨behind, same⟩ := withoutFinalBreak_prefix name.toList
      rw [← same, begun]
      rfl
    rw [isNumeral, head, Option.map_some, Option.getD_some, Bool.eq_false_iff]
    intro digit
    -- no script has digits between the ASCII ones and the superscripts, where the letters are
    have apart := Text.isDigit_bounds digit
    have bounds := toNat_of_isNameStart named.1
    omega

/-- A set with a variable whose index has more digits than numbers have unless the limit is lifted. -/
def distant : ExtensionSet := ⟨.ofList ["logic", "arith.int"], .singleton (Nat.pow 10 Text.maxDigits)⟩

end ExtensionSet

end NestedFlow
