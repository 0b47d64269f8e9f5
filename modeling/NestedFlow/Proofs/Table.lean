import NestedFlow.Table

/-! Tables seen through their entries, keys and sizes, and the erasure of several keys at once. -/

set_option autoImplicit false

namespace NestedFlow.Table

variable {κ ν : Type} [DecidableEq κ]

theorem lookup_eq_some_iff {entries : List (κ × ν)} (nodup : (entries.map Prod.fst).Nodup) (key : κ) (value : ν) :
    lookup key entries = some value ↔ (key, value) ∈ entries := by
  induction entries with
  | nil => simp [lookup]
  | cons entry rest ih =>
    obtain ⟨k, v⟩ := entry
    rw [List.map_cons, List.nodup_cons] at nodup
    by_cases same : k = key
    · subst same
      have absent : (k, value) ∉ rest := fun mem => nodup.1 (List.mem_map.2 ⟨(k, value), mem, rfl⟩)
      simp [lookup, absent, eq_comm]
    · have apart : key ≠ k := fun h => same h.symm
      simp [lookup, same, apart, ih nodup.2]

theorem get?_eq_some_iff (table : Table κ ν) (key : κ) (value : ν) :
    table.get? key = some value ↔ (key, value) ∈ table.entries :=
  lookup_eq_some_iff table.nodup key value

theorem mem_keys_iff_get? (table : Table κ ν) (key : κ) : key ∈ table.keys ↔ ∃ value, table.get? key = some value := by
  rw [mem_keys_iff, contains, Option.isSome_iff_exists]

theorem get?_eq_none_iff (table : Table κ ν) (key : κ) : table.get? key = none ↔ key ∉ table.keys := by
  rw [mem_keys_iff, contains]
  cases table.get? key <;> simp

theorem mem_keys_of_get? {table : Table κ ν} {key : κ} {value : ν} (found : table.get? key = some value) :
    key ∈ table.keys := (table.mem_keys_iff_get? key).2 ⟨value, found⟩

omit [DecidableEq κ] in
theorem nodup_keys (table : Table κ ν) : table.keys.Nodup := table.nodup

omit [DecidableEq κ] in
theorem length_keys (table : Table κ ν) : table.keys.length = table.size := by
  rw [keys, size, List.length_map]

@[simp] theorem get?_emptyCollection (key : κ) : (∅ : Table κ ν).get? key = none := rfl

theorem getD_eq (table : Table κ ν) (key : κ) (default : ν) : table.getD key default = (table.get? key).getD default :=
  rfl

theorem contains_iff (table : Table κ ν) (key : κ) : table.contains key = true ↔ ∃ value, table.get? key = some value := by
  rw [contains, Option.isSome_iff_exists]

theorem get?_insert_eq (table : Table κ ν) (key other : κ) (value : ν) :
    (table.insert key value).get? other = if other = key then some value else table.get? other := by
  simp only [get?_insert, eq_comm]

theorem get?_erase_eq (table : Table κ ν) (key other : κ) :
    (table.erase key).get? other = if other = key then none else table.get? other := by
  simp only [get?_erase, eq_comm]

theorem modify_of_get? {table : Table κ ν} {key : κ} {value : ν} (found : table.get? key = some value)
    (change : ν → ν) : table.modify key change = table.insert key (change value) := by
  rw [modify, found]

theorem get?_modify (table : Table κ ν) (key other : κ) (change : ν → ν) :
    (table.modify key change).get? other =
      if other = key then (table.get? key).map change else table.get? other := by
  rw [modify]
  split
  · rename_i absent
    split
    · rename_i same
      rw [same, absent, Option.map_none]
    · rfl
  · rename_i value found
    rw [get?_insert_eq, found, Option.map_some]

theorem keys_insert (table : Table κ ν) (key : κ) (value : ν) :
    (table.insert key value).keys = if key ∈ table.keys then table.keys else table.keys ++ [key] :=
  map_fst_assign key value table.entries

theorem keys_modify (table : Table κ ν) (key : κ) (change : ν → ν) : (table.modify key change).keys = table.keys := by
  rw [modify]
  split
  · rfl
  · rename_i value found
    rw [keys_insert, if_pos (mem_keys_of_get? found)]

section

variable {ι : Type} {items : List ι} {key : ι → κ} (change : ι → ν → ν)

theorem keys_foldl_modify (table : Table κ ν) :
    (items.foldl (fun table item => table.modify (key item) (change item)) table).keys = table.keys := by
  induction items generalizing table with
  | nil => rfl
  | cons first rest ih => rw [List.foldl_cons, ih, keys_modify]

/-- Changing the values of some keys leaves those of the others alone. -/
theorem get?_foldl_modify_of_not_mem {table : Table κ ν} {other : κ} (absent : other ∉ items.map key) :
    (items.foldl (fun table item => table.modify (key item) (change item)) table).get? other = table.get? other := by
  induction items generalizing table with
  | nil => rfl
  | cons first rest ih =>
    rw [List.map_cons, List.mem_cons, not_or] at absent
    rw [List.foldl_cons, ih absent.2, get?_modify, if_neg absent.1]

/-- Changing the values of distinct keys changes each of them once. -/
theorem get?_foldl_modify_of_mem {table : Table κ ν} (distinct : (items.map key).Nodup) {item : ι}
    (member : item ∈ items) :
    (items.foldl (fun table item => table.modify (key item) (change item)) table).get? (key item) =
      (table.get? (key item)).map (change item) := by
  induction items generalizing table with
  | nil => cases member
  | cons first rest ih =>
    rw [List.map_cons, List.nodup_cons] at distinct
    rw [List.foldl_cons]
    rcases List.mem_cons.1 member with rfl | later
    · rw [get?_foldl_modify_of_not_mem change distinct.1, get?_modify, if_pos rfl]
    · have apart : key item ≠ key first := fun same => distinct.1 (same ▸ List.mem_map_of_mem later)
      rw [ih distinct.2 later, get?_modify, if_neg apart]

end

/-! ### Tables with the same keys -/

theorem entries_eq_of_lookup {first second : List (κ × ν)} (nodup : (first.map Prod.fst).Nodup)
    (keys : first.map Prod.fst = second.map Prod.fst) (values : ∀ key, lookup key first = lookup key second) :
    first = second := by
  induction first generalizing second with
  | nil => exact (List.map_eq_nil_iff.1 keys.symm).symm
  | cons entry rest ih =>
    cases second with
    | nil => cases keys
    | cons other others =>
      obtain ⟨k, v⟩ := entry
      obtain ⟨k', w⟩ := other
      rw [List.map_cons, List.map_cons, List.cons.injEq] at keys
      obtain ⟨rfl, keys⟩ : k = k' ∧ _ := keys
      rw [List.map_cons, List.nodup_cons] at nodup
      have value : v = w := by simpa [lookup] using values k
      have further : rest = others := by
        apply ih nodup.2 keys
        intro key
        by_cases same : k = key
        · -- neither of the two rests has the first key again
          have absent : ∀ entries : List (κ × ν), k ∉ entries.map Prod.fst → lookup k entries = none :=
            fun entries none => Option.not_isSome_iff_eq_none.1 fun some => none ((lookup_isSome_iff k entries).1 some)
          rw [← same, absent rest nodup.1, absent others (keys ▸ nodup.1)]
        · simpa [lookup, same] using values key
      rw [value, further]

theorem ext_get? {left right : Table κ ν} (keys : left.keys = right.keys)
    (values : ∀ key, left.get? key = right.get? key) : left = right :=
  ext (entries_eq_of_lookup left.nodup keys values)

/-- The table with other values for the same keys. -/
def mapValues (table : Table κ ν) (change : κ → ν → ν) : Table κ ν where
  entries := table.entries.map fun entry => (entry.1, change entry.1 entry.2)
  nodup := by
    rw [List.map_map]
    exact table.nodup

omit [DecidableEq κ] in
theorem keys_mapValues (table : Table κ ν) (change : κ → ν → ν) : (table.mapValues change).keys = table.keys := by
  rw [keys, mapValues, List.map_map]
  rfl

theorem lookup_map (change : κ → ν → ν) (key : κ) (entries : List (κ × ν)) :
    lookup key (entries.map fun entry => (entry.1, change entry.1 entry.2)) = (lookup key entries).map (change key) := by
  induction entries with
  | nil => rfl
  | cons entry rest ih =>
    obtain ⟨k, v⟩ := entry
    rw [List.map_cons, lookup, lookup, ih]
    split
    · rename_i same
      rw [same, Option.map_some]
    · rfl

theorem get?_mapValues (table : Table κ ν) (change : κ → ν → ν) (key : κ) :
    (table.mapValues change).get? key = (table.get? key).map (change key) := lookup_map change key table.entries

/-! ### Inserting entries -/

/-- Assigning a new key adds its entry at the end. -/
theorem assign_of_not_mem {key : κ} {value : ν} {entries : List (κ × ν)} (absent : key ∉ entries.map Prod.fst) :
    assign key value entries = entries ++ [(key, value)] := by
  induction entries with
  | nil => rfl
  | cons entry rest ih =>
    obtain ⟨k, v⟩ := entry
    rw [List.map_cons, List.mem_cons, not_or] at absent
    have apart : k ≠ key := fun h => absent.1 h.symm
    rw [assign, if_neg apart, ih absent.2, List.cons_append]

theorem entries_insert_of_not_mem {table : Table κ ν} {key : κ} {value : ν} (absent : key ∉ table.keys) :
    (table.insert key value).entries = table.entries ++ [(key, value)] := assign_of_not_mem absent

/-- Assigning the value that a key has changes nothing. -/
theorem assign_of_lookup {key : κ} {value : ν} {entries : List (κ × ν)} (found : lookup key entries = some value) :
    assign key value entries = entries := by
  induction entries with
  | nil => cases found
  | cons entry rest ih =>
    obtain ⟨k, v⟩ := entry
    rw [lookup] at found
    rw [assign]
    split
    · rename_i here
      rw [if_pos here] at found
      rw [Option.some.inj found]
    · rename_i elsewhere
      rw [if_neg elsewhere] at found
      rw [ih found]

theorem insert_of_get? {table : Table κ ν} {key : κ} {value : ν} (found : table.get? key = some value) :
    table.insert key value = table := ext (assign_of_lookup found)

theorem mem_keys_insert {table : Table κ ν} {key other : κ} {value : ν} :
    other ∈ (table.insert key value).keys ↔ other = key ∨ other ∈ table.keys := by
  rw [keys_insert]
  split
  · rename_i present
    exact ⟨.inr, fun either => either.elim (fun same => same ▸ present) id⟩
  · rw [List.mem_append, List.mem_singleton, or_comm]

/-- Inserting entries with new keys adds them at the end. -/
theorem entries_foldl_insert {entries : List (κ × ν)} {table : Table κ ν}
    (distinct : (table.keys ++ entries.map Prod.fst).Nodup) :
    (entries.foldl (fun table entry => table.insert entry.1 entry.2) table).entries = table.entries ++ entries := by
  induction entries generalizing table with
  | nil => rw [List.foldl_nil, List.append_nil]
  | cons entry rest ih =>
    have fresh : entry.1 ∉ table.keys := fun mem =>
      (List.nodup_append.1 distinct).2.2 entry.1 mem entry.1 List.mem_cons_self rfl
    have keys : (table.insert entry.1 entry.2).keys = table.keys ++ [entry.1] := by rw [keys_insert, if_neg fresh]
    rw [List.foldl_cons, ih, entries_insert_of_not_mem fresh, List.append_assoc, List.singleton_append]
    rwa [keys, List.append_assoc, List.singleton_append]

theorem entries_ofList {entries : List (κ × ν)} (distinct : (entries.map Prod.fst).Nodup) :
    (ofList entries).entries = entries := @entries_foldl_insert κ ν _ entries .empty distinct

/-! ### Erasing several keys -/

def eraseAll (table : Table κ ν) (keys : List κ) : Table κ ν where
  entries := table.entries.filter fun entry => decide (entry.1 ∉ keys)
  nodup := (List.filter_sublist.map Prod.fst).nodup table.nodup

theorem get?_eraseAll (table : Table κ ν) (keys : List κ) (key : κ) :
    (table.eraseAll keys).get? key = if key ∈ keys then none else table.get? key := by
  apply Option.ext
  intro value
  rw [get?_eq_some_iff, eraseAll, List.mem_filter, decide_eq_true_iff, ← get?_eq_some_iff]
  by_cases listed : key ∈ keys <;> simp [listed]

theorem erase_eq_eraseAll (table : Table κ ν) (key : κ) : table.erase key = table.eraseAll [key] := by
  apply ext
  change table.entries.filter _ = table.entries.filter _
  congr 1
  funext entry
  simp

theorem eraseAll_eraseAll (table : Table κ ν) (first second : List κ) :
    (table.eraseAll first).eraseAll second = table.eraseAll (first ++ second) := by
  apply ext
  change (table.entries.filter _).filter _ = table.entries.filter _
  rw [List.filter_filter]
  congr 1
  funext entry
  simp [Bool.and_comm]

@[simp] theorem eraseAll_nil (table : Table κ ν) : table.eraseAll [] = table := by
  apply ext
  change table.entries.filter _ = table.entries
  simp

end NestedFlow.Table
