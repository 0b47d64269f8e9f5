import NestedFlow.Json.Portable
import Mathlib.Data.List.Nodup

/-! Data that stays as it is in documents: it has no moments and no numbers that are not finite, and the keys of free
data are made of characters alone.
-/

set_option autoImplicit false

namespace NestedFlow.Json

mutual

/-- Data that JSON text can hold. -/
def IsPortable : Json → Prop
  | .float .nan | .float (.infinite _) | .moment _ => False
  | .arr items => ArePortable items
  | .obj fields => AreFieldsPortable fields
  | _ => True

def ArePortable : List Json → Prop
  | [] => True
  | item :: rest => IsPortable item ∧ ArePortable rest

def AreFieldsPortable : List (String × Json) → Prop
  | [] => True
  | (_, value) :: rest => IsPortable value ∧ AreFieldsPortable rest

end

theorem areFieldsPortable_iff {fields : List (String × Json)} :
    AreFieldsPortable fields ↔ ∀ field ∈ fields, field.2.IsPortable := by
  induction fields with
  | nil => simp [AreFieldsPortable]
  | cons field rest ih => rw [AreFieldsPortable, ih, List.forall_mem_cons]

mutual

theorem portable_eq : ∀ {data : Json}, data.IsPortable → data.portable = data
  | .null, _ | .bool _, _ | .int _, _ | .str _, _ | .float (.finite _ _ _), _ => by rw [portable] <;> simp
  | .float .nan, kept | .float (.infinite _), kept | .moment _, kept => by
    rw [IsPortable] at kept
    exact kept.elim
  | .arr _, kept => by
    rw [IsPortable] at kept
    rw [portable, portableItems_eq kept]
  | .obj _, kept => by
    rw [IsPortable] at kept
    rw [portable, portableFields_eq kept]

theorem portableItems_eq : ∀ {items : List Json}, ArePortable items → portableItems items = items
  | [], _ => by rw [portableItems]
  | _ :: _, kept => by
    rw [ArePortable] at kept
    rw [portableItems, portable_eq kept.1, portableItems_eq kept.2]

theorem portableFields_eq : ∀ {fields : List (String × Json)}, AreFieldsPortable fields → portableFields fields = fields
  | [], _ => by rw [portableFields]
  | (_, _) :: _, kept => by
    rw [AreFieldsPortable] at kept
    rw [portableFields, portable_eq kept.1, portableFields_eq kept.2]

end

theorem setField_of_not_mem {name : String} (value : Json) {fields : List (String × Json)}
    (absent : name ∉ fields.map Prod.fst) : setField name value fields = fields ++ [(name, value)] := by
  induction fields with
  | nil => rfl
  | cons field rest ih =>
    obtain ⟨key, old⟩ := field
    rw [List.map_cons, List.mem_cons, not_or] at absent
    rw [setField, if_neg (Ne.symm absent.1), ih absent.2, List.cons_append]

/-- Fields with distinct keys of characters alone are written one after another. -/
theorem foldl_setField {fields : List (String × Json)} (plain : ∀ field ∈ fields, Text.withoutHalves field.1 = field.1)
    {done : List (String × Json)} (distinct : ((done ++ fields).map Prod.fst).Nodup) :
    fields.foldl (fun done (key, value) => setField (Text.withoutHalves key) value done) done = done ++ fields := by
  induction fields generalizing done with
  | nil => rw [List.foldl_nil, List.append_nil]
  | cons field rest ih =>
    obtain ⟨key, value⟩ := field
    have fresh : key ∉ done.map Prod.fst := by
      rw [List.map_append, List.map_cons, List.nodup_append] at distinct
      exact fun mem => distinct.2.2 key mem key List.mem_cons_self rfl
    have kept : Text.withoutHalves key = key := plain (key, value) List.mem_cons_self
    have others : ∀ field ∈ rest, Text.withoutHalves field.1 = field.1 :=
      fun field mem => plain field (List.mem_cons_of_mem (key, value) mem)
    rw [List.foldl_cons]
    simp only [kept, setField_of_not_mem value fresh]
    rw [ih others, List.append_assoc, List.singleton_append]
    rwa [List.append_assoc]

/-- The fields of free data as they stand in a document. -/
def freeFields (fields : List (String × Json)) : List (String × Json) :=
  (portableFields fields).foldl (fun done (key, value) => setField (Text.withoutHalves key) value done) []

theorem freeData_eq (fields : List (String × Json)) : freeData fields = .obj (freeFields fields) := rfl

theorem freeFields_eq {fields : List (String × Json)} (plain : ∀ field ∈ fields, Text.withoutHalves field.1 = field.1)
    (kept : AreFieldsPortable fields) (distinct : (fields.map Prod.fst).Nodup) : freeFields fields = fields := by
  rw [freeFields, portableFields_eq kept, foldl_setField plain]
  · rw [List.nil_append]
  · rwa [List.nil_append]

end NestedFlow.Json
