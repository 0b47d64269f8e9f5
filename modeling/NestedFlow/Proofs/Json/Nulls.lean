import NestedFlow.Proofs.Json.Free
import NestedFlow.Storage

/-! Data whose objects lose the fields that are null, as tables hold it. Nulls in other places stay. -/

set_option autoImplicit false

namespace NestedFlow.Json

open Storage

/-- An object in the data, at any depth, has a field that is null. -/
inductive HasNullField : Json → Prop where
  | here {fields : List (String × Json)} {key : String} (isField : (key, .null) ∈ fields) : HasNullField (.obj fields)
  | inField {fields : List (String × Json)} {field : String × Json} (isField : field ∈ fields)
      (within : HasNullField field.2) : HasNullField (.obj fields)
  | inItem {items : List Json} {item : Json} (isItem : item ∈ items) (within : HasNullField item) :
      HasNullField (.arr items)

theorem keeps_eq_true_iff {data : Json} : Form.compact.keeps data = true ↔ data ≠ .null := by
  cases data <;> simp [Form.keeps]

theorem partwise_not_hasNullField : Partwise (fun _ kept => kept = true) fun data => ¬ data.HasNullField where
  str _ := fun has => nomatch has
  arr items := by
    constructor
    · exact fun none item mem has => none (.inItem mem has)
    · rintro none (_ | _ | ⟨mem, has⟩)
      exact none _ mem has
  obj fields := by
    constructor
    · intro none field mem
      have some : field.2 ≠ .null := fun isNull => none (@HasNullField.here fields field.1 (by rwa [← isNull]))
      exact ⟨keeps_eq_true_iff.2 some, fun has => none (.inField mem has)⟩
    · rintro none (mem | ⟨mem, has⟩)
      · exact keeps_eq_true_iff.1 (none _ mem).1 rfl
      · exact (none _ mem).2 has

/-! ### What is left -/

theorem itemsWithoutNulls_eq_map (items : List Json) : itemsWithoutNulls items = items.map withoutNulls := by
  induction items with
  | nil => rw [itemsWithoutNulls, List.map_nil]
  | cons item rest ih => rw [itemsWithoutNulls, ih, List.map_cons]

theorem fieldsWithoutNulls_eq (fields : List (String × Json)) :
    fieldsWithoutNulls fields =
      (fields.filter fun field => Form.compact.keeps field.2).map (Prod.map id withoutNulls) := by
  induction fields with
  | nil => rw [fieldsWithoutNulls, List.filter_nil, List.map_nil]
  | cons field rest ih =>
    obtain ⟨key, value⟩ := field
    by_cases isNull : value = .null
    · rw [isNull, fieldsWithoutNulls, ih]
      rfl
    · rw [fieldsWithoutNulls, ih, List.filter_cons, if_pos (keeps_eq_true_iff.2 isNull), List.map_cons]
      · rfl
      · exact isNull

theorem withoutNulls_leaf {data : Json} (notArr : ∀ items, data ≠ .arr items) (notObj : ∀ fields, data ≠ .obj fields) :
    withoutNulls data = data := by
  rw [withoutNulls]
  · exact notArr
  · exact notObj

theorem keeps_withoutNulls (data : Json) : Form.compact.keeps (withoutNulls data) = Form.compact.keeps data := by
  cases data <;> rw [withoutNulls] <;> first | rfl | simp

/-- What holds of data part by part holds of what is left. -/
theorem Partwise.withoutNulls {admits : String → Bool → Prop} {good : Json → Prop} (partwise : Partwise admits good)
    {data : Json} (held : good data) : good (withoutNulls data) := by
  induction data using byParts with
  | leaf data notArr notObj => rwa [withoutNulls_leaf notArr notObj]
  | arr items ih =>
    rw [Storage.withoutNulls, itemsWithoutNulls_eq_map, partwise.arr, List.forall_mem_map]
    exact fun item mem => ih item mem ((partwise.arr items).1 held item mem)
  | obj fields ih =>
    rw [Storage.withoutNulls, fieldsWithoutNulls_eq, partwise.obj, List.forall_mem_map]
    intro field kept
    have mem := (List.mem_filter.1 kept).1
    obtain ⟨admitted, value⟩ := (partwise.obj fields).1 held field mem
    exact ⟨by rwa [Prod.map_snd, keeps_withoutNulls], ih field mem value⟩

theorem depth_withoutNulls_le (data : Json) : (withoutNulls data).depth ≤ data.depth := by
  induction data using byParts with
  | leaf data notArr notObj => exact Nat.le_of_eq (congrArg depth (withoutNulls_leaf notArr notObj))
  | arr items ih =>
    rw [Storage.withoutNulls, depth, depth, itemsWithoutNulls_eq_map, Nat.add_le_add_iff_right, depthOfItems_le_iff,
      List.forall_mem_map]
    exact fun item mem => Nat.le_trans (ih item mem) (depth_le_depthOfItems mem)
  | obj fields ih =>
    rw [Storage.withoutNulls, depth, depth, fieldsWithoutNulls_eq, Nat.add_le_add_iff_right, depthOfFields_le_iff,
      List.forall_mem_map]
    intro field kept
    have mem := (List.mem_filter.1 kept).1
    exact Nat.le_trans (ih field mem) (depth_le_depthOfFields mem)

theorem not_hasNullField_withoutNulls (data : Json) : ¬ (withoutNulls data).HasNullField := by
  induction data using byParts with
  | leaf data notArr notObj =>
    rw [withoutNulls_leaf notArr notObj]
    rintro (_ | _ | _)
    · exact notObj _ rfl
    · exact notObj _ rfl
    · exact notArr _ rfl
  | arr items ih =>
    rw [withoutNulls, itemsWithoutNulls_eq_map, partwise_not_hasNullField.arr, List.forall_mem_map]
    exact ih
  | obj fields ih =>
    rw [withoutNulls, fieldsWithoutNulls_eq, partwise_not_hasNullField.obj, List.forall_mem_map]
    intro field kept
    obtain ⟨mem, some⟩ := List.mem_filter.1 kept
    exact ⟨(keeps_withoutNulls field.2).trans some, ih field mem⟩

/-- Data is left as it is exactly if no object in it has a field that is null. -/
theorem withoutNulls_eq_self_iff {data : Json} : withoutNulls data = data ↔ ¬ data.HasNullField := by
  refine ⟨fun same => same ▸ not_hasNullField_withoutNulls data, fun none => ?_⟩
  induction data using byParts with
  | leaf data notArr notObj => exact withoutNulls_leaf notArr notObj
  | arr items ih =>
    rw [partwise_not_hasNullField.arr] at none
    rw [withoutNulls, itemsWithoutNulls_eq_map, List.map_congr_left fun item mem => ih item mem (none item mem)]
    exact congrArg Json.arr (List.map_id' items)
  | obj fields ih =>
    rw [partwise_not_hasNullField.obj] at none
    have all : (fields.filter fun field => Form.compact.keeps field.2) = fields :=
      List.filter_eq_self.2 fun field mem => (none field mem).1
    have each : ∀ field ∈ fields, Prod.map id withoutNulls field = field :=
      fun field mem => Prod.ext rfl (ih field mem (none field mem).2)
    rw [withoutNulls, fieldsWithoutNulls_eq, all, List.map_congr_left each]
    exact congrArg Json.obj (List.map_id' fields)

theorem depthOfFields_fieldsWithoutNulls_le (fields : List (String × Json)) :
    depthOfFields (fieldsWithoutNulls fields) ≤ depthOfFields fields := by
  have whole := depth_withoutNulls_le (.obj fields)
  rwa [withoutNulls, depth, depth, Nat.add_le_add_iff_right] at whole

/-- What is left of free fields can stand in a document. -/
theorem AreFree.withoutNulls {fields : List (String × Json)} (free : AreFree fields) :
    AreFree (fieldsWithoutNulls fields) := by
  rw [fieldsWithoutNulls_eq]
  constructor
  · rw [List.forall_mem_map]
    exact fun field kept => free.plain field (List.mem_filter.1 kept).1
  · rw [List.forall_mem_map]
    exact fun field kept => partwise_isPortable.withoutNulls (free.portable field (List.mem_filter.1 kept).1)
  · rw [List.map_map]
    exact (List.filter_sublist.map Prod.fst).nodup free.distinct

end NestedFlow.Json
