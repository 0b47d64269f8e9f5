import NestedFlow.Document.Writer
import NestedFlow.Json.Size
import NestedFlow.Proofs.Json

/-! Data and its parts: an induction over data, and what holds of data part by part. -/

set_option autoImplicit false

namespace NestedFlow.Json

/-! ### Induction -/

/-- A property that data without parts has, and arrays and objects if their parts have it. -/
structure Inductive (motive : Json → Prop) : Prop where
  leaf : ∀ data, (∀ items, data ≠ .arr items) → (∀ fields, data ≠ .obj fields) → motive data
  arr : ∀ items, (∀ item ∈ items, motive item) → motive (.arr items)
  obj : ∀ fields, (∀ field ∈ fields, motive field.2) → motive (.obj fields)

mutual

theorem Inductive.holds {motive : Json → Prop} (cases : Inductive motive) : ∀ data, motive data
  | .null | .bool _ | .int _ | .float _ | .str _ | .moment _ => cases.leaf _ (by simp) (by simp)
  | .arr items => cases.arr items (cases.holdsOfItems items)
  | .obj fields => cases.obj fields (cases.holdsOfFields fields)

theorem Inductive.holdsOfItems {motive : Json → Prop} (cases : Inductive motive) :
    ∀ items : List Json, ∀ item ∈ items, motive item
  | [], _, mem => absurd mem List.not_mem_nil
  | first :: rest, _, mem =>
    (List.mem_cons.1 mem).elim (fun same => same ▸ cases.holds first) (cases.holdsOfItems rest _)

theorem Inductive.holdsOfFields {motive : Json → Prop} (cases : Inductive motive) :
    ∀ fields : List (String × Json), ∀ field ∈ fields, motive field.2
  | [], _, mem => absurd mem List.not_mem_nil
  | (_, first) :: rest, _, mem =>
    (List.mem_cons.1 mem).elim (fun same => same ▸ cases.holds first) (cases.holdsOfFields rest _)

end

/-- Induction over data by its parts. -/
theorem byParts {motive : Json → Prop}
    (leaf : ∀ data, (∀ items, data ≠ .arr items) → (∀ fields, data ≠ .obj fields) → motive data)
    (arr : ∀ items, (∀ item ∈ items, motive item) → motive (.arr items))
    (obj : ∀ fields, (∀ field ∈ fields, motive field.2) → motive (.obj fields)) (data : Json) : motive data :=
  Inductive.holds ⟨leaf, arr, obj⟩ data

/-! ### Properties of lists of parts -/

/-- A property that is defined along a list holds if all of its items have another one. -/
theorem forall_mem_of_cons {α : Type} {all : List α → Prop} {one : α → Prop} (nil : all [])
    (cons : ∀ item rest, all (item :: rest) ↔ one item ∧ all rest) (items : List α) :
    all items ↔ ∀ item ∈ items, one item := by
  induction items with
  | nil => exact iff_of_true nil fun _ mem => absurd mem List.not_mem_nil
  | cons item rest ih => rw [cons, ih, List.forall_mem_cons]

theorem arePortable_iff : ∀ items, ArePortable items ↔ ∀ item ∈ items, item.IsPortable :=
  forall_mem_of_cons (by simp [ArePortable]) fun _ _ => by rw [ArePortable]

theorem areWritable_iff : ∀ items, areWritable items = true ↔ ∀ item ∈ items, item.isWritable = true :=
  forall_mem_of_cons (by rw [areWritable]) fun _ _ => by rw [areWritable, Bool.and_eq_true]

theorem areFieldsWritable_iff : ∀ fields, areFieldsWritable fields = true ↔
    ∀ field ∈ fields, field.2.isWritable = true :=
  forall_mem_of_cons (by rw [areFieldsWritable]) fun _ _ => by rw [areFieldsWritable, Bool.and_eq_true]

theorem havePlainKeys_iff : ∀ items, havePlainKeys items = true ↔ ∀ item ∈ items, item.hasPlainKeys = true :=
  forall_mem_of_cons (by rw [havePlainKeys]) fun _ _ => by rw [havePlainKeys, Bool.and_eq_true]

theorem areFieldsPlainKeyed_iff : ∀ fields, areFieldsPlainKeyed fields = true ↔
    ∀ field ∈ fields, Text.hasHalf field.1 = false ∧ field.2.hasPlainKeys = true :=
  forall_mem_of_cons (by rw [areFieldsPlainKeyed]) fun _ _ => by
    rw [areFieldsPlainKeyed, Bool.and_eq_true, Bool.and_eq_true, Bool.not_eq_true']

theorem depthOfItems_le_iff {bound : Nat} : ∀ items, depthOfItems items ≤ bound ↔
    ∀ item ∈ items, item.depth ≤ bound :=
  forall_mem_of_cons (by simp [depthOfItems]) fun _ _ => by rw [depthOfItems, Nat.max_le]

theorem depthOfFields_le_iff {bound : Nat} : ∀ fields, depthOfFields fields ≤ bound ↔
    ∀ field ∈ fields, field.2.depth ≤ bound :=
  forall_mem_of_cons (by simp [depthOfFields]) fun _ _ => by rw [depthOfFields, Nat.max_le]

theorem depth_le_depthOfItems {items : List Json} {item : Json} (mem : item ∈ items) :
    item.depth ≤ depthOfItems items :=
  (depthOfItems_le_iff items).1 (Nat.le_refl _) item mem

theorem depth_le_depthOfFields {fields : List (String × Json)} {field : String × Json} (mem : field ∈ fields) :
    field.2.depth ≤ depthOfFields fields :=
  (depthOfFields_le_iff fields).1 (Nat.le_refl _) field mem

/-! ### Properties part by part -/

/-- A property of data that holds of an array if it holds of the items, and of an object if it holds of the values of
the fields and their keys are admitted, perhaps only where the value is not null. Texts have it. -/
structure Partwise (admits : String → Bool → Prop) (good : Json → Prop) : Prop where
  str : ∀ text, good (.str text)
  arr : ∀ items, good (.arr items) ↔ ∀ item ∈ items, good item
  obj : ∀ fields, good (.obj fields) ↔ ∀ field ∈ fields, admits field.1 (Form.compact.keeps field.2) ∧ good field.2

theorem partwise_isWritable : Partwise (fun _ _ => True) fun data => data.isWritable = true where
  str _ := by rw [isWritable] <;> simp
  arr items := by rw [isWritable, areWritable_iff]
  obj fields := by simp only [isWritable, areFieldsWritable_iff, true_and]

theorem partwise_hasPlainKeys :
    Partwise (fun key _ => Text.hasHalf key = false) fun data => data.hasPlainKeys = true where
  str _ := by rw [hasPlainKeys] <;> simp
  arr items := by rw [hasPlainKeys, havePlainKeys_iff]
  obj fields := by rw [hasPlainKeys, areFieldsPlainKeyed_iff]

theorem partwise_isPortable : Partwise (fun _ _ => True) IsPortable where
  str _ := by rw [IsPortable] <;> simp
  arr items := by rw [IsPortable, arePortable_iff]
  obj fields := by simp only [IsPortable, areFieldsPortable_iff, true_and]

namespace Partwise

variable {admits : String → Bool → Prop} {good : Json → Prop} (partwise : Partwise admits good)

include partwise

theorem texts (texts : List String) : good (jsonTexts texts) := by
  rw [jsonTexts, partwise.arr]
  intro item mem
  obtain ⟨text, -, rfl⟩ := List.mem_map.1 mem
  exact partwise.str text

/-- Only the fields that are written count. -/
theorem record_cons {key : String} {value : Json} {fields : List (String × Json)} :
    good (Form.compact.record ((key, value) :: fields)) ↔
      (Form.compact.keeps value = true → admits key true ∧ good value) ∧ good (Form.compact.record fields) := by
  rw [Form.record, Form.record, partwise.obj, partwise.obj, List.filter_cons]
  dsimp only
  cases kept : Form.compact.keeps value with
  | false => simp
  | true => simp [kept]

end Partwise

/-! ### Kindred data -/

/-- Data with the same properties part by part. -/
structure Kindred (first second : Json) : Prop where
  keeps : Form.compact.keeps first = Form.compact.keeps second
  good : ∀ {admits : String → Bool → Prop} {good : Json → Prop}, Partwise admits good → (good first ↔ good second)

/-- Fields with the same keys and with kindred values. -/
inductive KindredFields : List (String × Json) → List (String × Json) → Prop where
  | nil : KindredFields [] []
  | same {field : String × Json} {rest others : List (String × Json)} (further : KindredFields rest others) :
    KindredFields (field :: rest) (field :: others)
  | field {key : String} {first second : Json} {rest others : List (String × Json)} (data : Kindred first second)
    (further : KindredFields rest others) : KindredFields ((key, first) :: rest) ((key, second) :: others)

namespace Kindred

theorem refl (data : Json) : Kindred data data := ⟨rfl, fun _ => Iff.rfl⟩

theorem str (first second : String) : Kindred (.str first) (.str second) :=
  ⟨rfl, fun partwise => iff_of_true (partwise.str first) (partwise.str second)⟩

theorem texts (first second : List String) : Kindred (jsonTexts first) (jsonTexts second) :=
  ⟨rfl, fun partwise => iff_of_true (partwise.texts first) (partwise.texts second)⟩

theorem cons {first second : Json} {items others : List Json} (head : Kindred first second)
    (tail : Kindred (.arr items) (.arr others)) : Kindred (.arr (first :: items)) (.arr (second :: others)) := by
  refine ⟨rfl, fun partwise => ?_⟩
  have rest := tail.good partwise
  rw [partwise.arr, partwise.arr] at rest
  rw [partwise.arr, partwise.arr, List.forall_mem_cons, List.forall_mem_cons, rest, head.good partwise]

theorem map {α : Type} {write again : α → Json} {items : List α}
    (each : ∀ item ∈ items, Kindred (write item) (again item)) :
    Kindred (.arr (items.map write)) (.arr (items.map again)) := by
  induction items with
  | nil => exact refl _
  | cons item rest ih =>
    rw [List.map_cons, List.map_cons]
    exact cons (each item List.mem_cons_self) (ih fun other mem => each other (List.mem_cons_of_mem item mem))

theorem record {first second : List (String × Json)} (fields : KindredFields first second) :
    Kindred (Form.compact.record first) (Form.compact.record second) := by
  refine ⟨rfl, fun partwise => ?_⟩
  induction fields with
  | nil => exact Iff.rfl
  | same _ ih => rw [partwise.record_cons, partwise.record_cons, ih]
  | field data _ ih => rw [partwise.record_cons, partwise.record_cons, ih, data.keeps, data.good partwise]

end Kindred

end NestedFlow.Json
