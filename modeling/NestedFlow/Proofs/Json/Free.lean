import NestedFlow.Proofs.Json.Parts
import NestedFlow.Proofs.Table

/-! Free data as it stands in documents: halves in its keys are replaced, and its values are portable. What stands in a
document is written again as it is.
-/

set_option autoImplicit false

namespace NestedFlow

/-! ### Halves of surrogate pairs -/

namespace Text

theorem isHalf_toNat (c : Char) : isHalf c.toNat = false := by
  have valid : c.toNat < 0xD800 ∨ 0xDFFF < c.toNat ∧ c.toNat < 0x110000 := c.valid
  simp only [isHalf, Bool.and_eq_false_iff, decide_eq_false_iff_not]
  omega

/-- A character is spelled as itself or, if it is the mark, as two marks. -/
theorem points_spell (c : Char) (rest : List Char) : points (spell c.toNat ++ rest) = c.toNat :: points rest := by
  rw [spell, isHalf_toNat]
  by_cases isMark : c.toNat = mark.toNat
  · simp [isMark, points, marked]
  · have apart : c ≠ mark := fun same => isMark (congrArg Char.toNat same)
    rw [if_neg Bool.false_ne_true, if_neg isMark, Char.ofNat_toNat]
    cases rest with
    | nil => rfl
    | cons next rest => rw [List.cons_append, List.nil_append, points, if_neg apart]

theorem toPlain_ofPlain (text : String) : toPlain (ofPlain text) = text := by
  have spelled : ∀ chars : List Char, (points (chars.flatMap fun c => spell c.toNat)).flatMap replaced = chars := by
    intro chars
    induction chars with
    | nil => rfl
    | cons c rest ih =>
      rw [List.flatMap_cons, points_spell, List.flatMap_cons, ih, replaced, isHalf_toNat, if_neg Bool.false_ne_true,
        Char.ofNat_toNat, List.singleton_append]
  rw [toPlain, ofPlain, String.toList_ofList, spelled, String.ofList_toList]

theorem withoutHalves_withoutHalves (text : String) : withoutHalves (withoutHalves text) = withoutHalves text := by
  rw [withoutHalves, withoutHalves, toPlain_ofPlain]

end Text

namespace Json

/-! ### Portable data -/

theorem portableItems_eq_map (items : List Json) : portableItems items = items.map portable := by
  induction items with
  | nil => rw [portableItems, List.map_nil]
  | cons item rest ih => rw [portableItems, ih, List.map_cons]

theorem portableFields_eq_map (fields : List (String × Json)) :
    portableFields fields = fields.map (Prod.map id portable) := by
  induction fields with
  | nil => rw [portableFields, List.map_nil]
  | cons field rest ih =>
    rw [portableFields, ih, List.map_cons]
    rfl

theorem isPortable_portable (data : Json) : data.portable.IsPortable := by
  induction data using byParts with
  | leaf data notArr notObj =>
    cases data with
    | arr items => exact absurd rfl (notArr items)
    | obj fields => exact absurd rfl (notObj fields)
    | float value => cases value <;> rw [portable, IsPortable] <;> simp
    | _ => rw [portable, IsPortable] <;> simp
  | arr items ih =>
    rw [portable, IsPortable, portableItems_eq_map, arePortable_iff, List.forall_mem_map]
    exact ih
  | obj fields ih =>
    rw [portable, IsPortable, portableFields_eq_map, areFieldsPortable_iff, List.forall_mem_map]
    exact ih

theorem depth_portable_le (data : Json) : data.portable.depth ≤ data.depth := by
  induction data using byParts with
  | leaf data notArr notObj =>
    cases data with
    | arr items => exact absurd rfl (notArr items)
    | obj fields => exact absurd rfl (notObj fields)
    | float value => cases value <;> rw [portable] <;> simp [depth]
    | _ => rw [portable] <;> simp [depth]
  | arr items ih =>
    rw [portable, depth, depth, portableItems_eq_map, Nat.add_le_add_iff_right, depthOfItems_le_iff,
      List.forall_mem_map]
    exact fun item mem => Nat.le_trans (ih item mem) (depth_le_depthOfItems mem)
  | obj fields ih =>
    rw [portable, depth, depth, portableFields_eq_map, Nat.add_le_add_iff_right, depthOfFields_le_iff,
      List.forall_mem_map]
    exact fun field mem => Nat.le_trans (ih field mem) (depth_le_depthOfFields mem)

/-! ### Free fields -/

/-- The free fields of a document by their keys. -/
def freeTable (fields : List (String × Json)) : Table String Json :=
  fields.foldl (fun table field => table.insert (Text.withoutHalves field.1) field.2.portable) ∅

theorem setField_eq_assign (name : String) (value : Json) (fields : List (String × Json)) :
    setField name value fields = Table.assign name value fields := by
  induction fields with
  | nil => rfl
  | cons field rest ih => rw [setField, Table.assign, ih]

theorem freeFields_eq_entries (fields : List (String × Json)) : freeFields fields = (freeTable fields).entries := by
  have along : ∀ table : Table String Json,
      (fields.map (Prod.map id portable)).foldl
        (fun done field => setField (Text.withoutHalves field.1) field.2 done) table.entries =
      (fields.foldl (fun table field => table.insert (Text.withoutHalves field.1) field.2.portable) table).entries := by
    induction fields with
    | nil => exact fun _ => rfl
    | cons field rest ih =>
      intro table
      rw [List.map_cons, List.foldl_cons, List.foldl_cons, ← ih, Table.insert]
      simp only [setField_eq_assign, Prod.map_fst, Prod.map_snd, id_eq]
  rw [freeFields, portableFields_eq_map]
  exact along ∅

/-- What holds of every field as it is written holds of all free fields. -/
theorem forall_freeFields {good : String × Json → Prop} {fields : List (String × Json)}
    (each : ∀ field ∈ fields, good (Text.withoutHalves field.1, field.2.portable)) :
    ∀ field ∈ freeFields fields, good field := by
  rw [freeFields_eq_entries]
  refine List.foldlRecOn fields _ (motive := fun table : Table String Json => ∀ field ∈ table.entries, good field)
    (fun _ mem => absurd mem List.not_mem_nil) ?_
  rintro table earlier field mem ⟨key, value⟩ isEntry
  rw [← Table.get?_eq_some_iff, Table.get?_insert_eq] at isEntry
  split at isEntry
  · rename_i same
    rw [same, ← Option.some.inj isEntry]
    exact each field mem
  · exact earlier (key, value) ((Table.get?_eq_some_iff _ _ _).1 isEntry)

/-- Fields that stand in a document as they are. -/
structure AreFree (fields : List (String × Json)) : Prop where
  plain : ∀ field ∈ fields, Text.withoutHalves field.1 = field.1
  portable : ∀ field ∈ fields, field.2.IsPortable
  distinct : (fields.map Prod.fst).Nodup

theorem AreFree.freeFields_eq {fields : List (String × Json)} (free : AreFree fields) : freeFields fields = fields :=
  Json.freeFields_eq free.plain (areFieldsPortable_iff.2 free.portable) free.distinct

theorem areFree_freeFields (fields : List (String × Json)) : AreFree (freeFields fields) where
  plain := forall_freeFields fun field _ => Text.withoutHalves_withoutHalves field.1
  portable := forall_freeFields fun field _ => isPortable_portable field.2
  distinct := by
    rw [freeFields_eq_entries]
    exact (freeTable fields).nodup

theorem depthOfFields_freeFields_le (fields : List (String × Json)) :
    depthOfFields (freeFields fields) ≤ depthOfFields fields := by
  rw [depthOfFields_le_iff]
  exact forall_freeFields fun field mem =>
    Nat.le_trans (depth_portable_le field.2) (depth_le_depthOfFields mem)

theorem freeFields_eq_nil_iff {fields : List (String × Json)} : freeFields fields = [] ↔ fields = [] := by
  constructor
  · intro none
    rcases List.eq_nil_or_concat fields with rfl | ⟨earlier, last, rfl⟩
    · rfl
    · have found : (freeTable (earlier ++ [last])).get? (Text.withoutHalves last.1) = some last.2.portable := by
        rw [freeTable, List.foldl_append, List.foldl_cons, List.foldl_nil, Table.get?_insert_eq, if_pos rfl]
      rw [List.concat_eq_append, freeFields_eq_entries] at none
      rw [Table.get?_eq_some_iff, none] at found
      cases found
  · rintro rfl
    rfl

end Json

end NestedFlow
