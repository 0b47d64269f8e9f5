/-! Insertion-ordered finite maps.

A table is a list of entries whose keys are distinct. Replacing the value of a present key keeps its
position, a new key goes to the end, and erasing keeps the order of the others. `get?_insert` and
`get?_erase` say what a lookup finds afterwards.
-/

set_option autoImplicit false

namespace NestedFlow

structure Table (κ ν : Type) where
  entries : List (κ × ν)
  nodup : (entries.map Prod.fst).Nodup

namespace Table

variable {κ ν : Type}

def empty : Table κ ν := ⟨[], by simp⟩

instance : EmptyCollection (Table κ ν) := ⟨empty⟩

instance : Inhabited (Table κ ν) := ⟨empty⟩

@[ext] theorem ext {left right : Table κ ν} (same : left.entries = right.entries) : left = right := by
  cases left; cases right; cases same; rfl

def keys (table : Table κ ν) : List κ := table.entries.map Prod.fst

def values (table : Table κ ν) : List ν := table.entries.map Prod.snd

def size (table : Table κ ν) : Nat := table.entries.length

def isEmpty (table : Table κ ν) : Bool := table.entries.isEmpty

variable [DecidableEq κ]

instance [DecidableEq ν] : DecidableEq (Table κ ν) := fun left right =>
  decidable_of_iff (left.entries = right.entries) ⟨ext, fun same => same ▸ rfl⟩

/-- The value of the first entry with this key. -/
def lookup (key : κ) : List (κ × ν) → Option ν
  | [] => none
  | (k, v) :: rest => if k = key then some v else lookup key rest

def get? (table : Table κ ν) (key : κ) : Option ν := lookup key table.entries

def contains (table : Table κ ν) (key : κ) : Bool := (table.get? key).isSome

def getD (table : Table κ ν) (key : κ) (default : ν) : ν := (table.get? key).getD default

/-- Replace the value of a key, or add the entry at the end. -/
def assign (key : κ) (value : ν) : List (κ × ν) → List (κ × ν)
  | [] => [(key, value)]
  | (k, v) :: rest => if k = key then (k, value) :: rest else (k, v) :: assign key value rest

theorem map_fst_assign (key : κ) (value : ν) (entries : List (κ × ν)) :
    (assign key value entries).map Prod.fst =
      if key ∈ entries.map Prod.fst then entries.map Prod.fst
      else entries.map Prod.fst ++ [key] := by
  induction entries with
  | nil => simp [assign]
  | cons entry rest ih =>
    obtain ⟨k, v⟩ := entry
    by_cases same : k = key
    · simp [assign, same]
    · have other : key ≠ k := fun h => same h.symm
      simp only [assign, same, if_false, List.map_cons, ih, List.mem_cons, other, false_or]
      split <;> simp

def insert (table : Table κ ν) (key : κ) (value : ν) : Table κ ν where
  entries := assign key value table.entries
  nodup := by
    rw [map_fst_assign]
    split
    · exact table.nodup
    · rename_i absent
      rw [List.nodup_append]
      refine ⟨table.nodup, by simp, ?_⟩
      intro k mem other single same
      simp only [List.mem_singleton] at single
      exact absent (single ▸ same ▸ mem)

def erase (table : Table κ ν) (key : κ) : Table κ ν where
  entries := table.entries.filter fun entry => decide (entry.1 ≠ key)
  nodup := (List.filter_sublist.map Prod.fst).nodup table.nodup

/-- Change the value of a key, if it is present. -/
def modify (table : Table κ ν) (key : κ) (change : ν → ν) : Table κ ν :=
  match table.get? key with
  | none => table
  | some value => table.insert key (change value)

/-- The same keys, whatever their order, with values that are alike. -/
def alike (same : ν → ν → Bool) (left right : Table κ ν) : Bool :=
  left.size == right.size && left.entries.all fun entry => (right.get? entry.1).any (same entry.2)

/-- Later entries win; a repeated key keeps its first position. -/
def ofList (entries : List (κ × ν)) : Table κ ν :=
  entries.foldl (fun table entry => table.insert entry.1 entry.2) empty

@[simp] theorem get?_empty (key : κ) : (empty : Table κ ν).get? key = none := rfl

theorem lookup_assign (key other : κ) (value : ν) (entries : List (κ × ν)) :
    lookup other (assign key value entries) =
      if key = other then some value else lookup other entries := by
  induction entries with
  | nil => simp [assign, lookup]
  | cons entry rest ih =>
    obtain ⟨k, v⟩ := entry
    by_cases same : k = key
    · subst same; by_cases h : k = other <;> simp [assign, lookup, h]
    · by_cases h : k = other
      · subst h
        have apart : key ≠ k := fun e => same e.symm
        simp [assign, lookup, same, apart]
      · simp [assign, lookup, same, h, ih]

@[simp] theorem get?_insert (table : Table κ ν) (key other : κ) (value : ν) :
    (table.insert key value).get? other = if key = other then some value else table.get? other :=
  lookup_assign key other value table.entries

theorem lookup_filter_ne (key other : κ) (entries : List (κ × ν)) :
    lookup other (entries.filter fun entry => decide (entry.1 ≠ key)) =
      if key = other then none else lookup other entries := by
  induction entries with
  | nil => simp [lookup]
  | cons entry rest ih =>
    obtain ⟨k, v⟩ := entry
    by_cases same : k = key
    · subst same; by_cases h : k = other <;> simp_all [lookup]
    · by_cases h : k = other
      · subst h
        have apart : key ≠ k := fun e => same e.symm
        simp [lookup, same, apart]
      · simp_all [lookup]

@[simp] theorem get?_erase (table : Table κ ν) (key other : κ) :
    (table.erase key).get? other = if key = other then none else table.get? other :=
  lookup_filter_ne key other table.entries

theorem lookup_isSome_iff (key : κ) (entries : List (κ × ν)) :
    (lookup key entries).isSome = true ↔ key ∈ entries.map Prod.fst := by
  induction entries with
  | nil => simp [lookup]
  | cons entry rest ih =>
    obtain ⟨k, v⟩ := entry
    by_cases same : k = key
    · simp [lookup, same]
    · have other : key ≠ k := fun h => same h.symm
      simp [lookup, same, other, ih]

theorem mem_keys_iff (table : Table κ ν) (key : κ) : key ∈ table.keys ↔ table.contains key = true :=
  (lookup_isSome_iff key table.entries).symm

end Table

end NestedFlow
