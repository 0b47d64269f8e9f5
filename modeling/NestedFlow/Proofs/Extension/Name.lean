import Mathlib.Data.List.Basic
import NestedFlow.Extension.Name

/-! Which texts are names of extensions: identifiers joined by single dots, and besides them every such text with one
line feed behind it.
-/

set_option autoImplicit false

namespace NestedFlow

def IsAsciiLetter (c : Char) : Prop := ('A' ≤ c ∧ c ≤ 'Z') ∨ ('a' ≤ c ∧ c ≤ 'z')

def IsAsciiDigit (c : Char) : Prop := '0' ≤ c ∧ c ≤ '9'

/-- An ASCII letter or an underscore, and behind it letters, underscores and digits. -/
inductive IsIdentifier : List Char → Prop where
  | mk {first : Char} {rest : List Char} (start : IsAsciiLetter first ∨ first = '_')
      (further : ∀ c ∈ rest, IsAsciiLetter c ∨ IsAsciiDigit c ∨ c = '_') : IsIdentifier (first :: rest)

/-- At least one identifier, with a dot between each two neighbours and nothing else. -/
def IsDotted (text : List Char) : Prop :=
  ∃ segments : List (List Char), segments ≠ [] ∧ (∀ segment ∈ segments, IsIdentifier segment) ∧
    text = ['.'].intercalate segments

/-! ### Characters -/

theorem isAlpha_iff {c : Char} : c.isAlpha = true ↔ IsAsciiLetter c := by
  change (decide ('A' ≤ c ∧ c ≤ 'Z') || (decide ('a' ≤ c) && decide (c ≤ 'z'))) = true ↔ _
  simp only [Bool.or_eq_true, Bool.and_eq_true, decide_eq_true_eq, IsAsciiLetter]

theorem isDigit_iff {c : Char} : c.isDigit = true ↔ IsAsciiDigit c := by
  change (decide ('0' ≤ c) && decide (c ≤ '9')) = true ↔ _
  simp only [Bool.and_eq_true, decide_eq_true_eq, IsAsciiDigit]

theorem isNameStart_iff {c : Char} : isNameStart c = true ↔ IsAsciiLetter c ∨ c = '_' := by
  rw [isNameStart, Bool.or_eq_true, isAlpha_iff, decide_eq_true_eq]

theorem isNamePart_iff {c : Char} : isNamePart c = true ↔ IsAsciiLetter c ∨ IsAsciiDigit c ∨ c = '_' := by
  have parts : c.isAlphanum = (c.isAlpha || c.isDigit) := rfl
  rw [isNamePart, parts, Bool.or_eq_true, Bool.or_eq_true, isAlpha_iff, isDigit_iff, decide_eq_true_eq, or_assoc]

theorem toNat_of_isNameStart {c : Char} (start : isNameStart c = true) : 65 ≤ c.toNat ∧ c.toNat ≤ 122 := by
  rcases isNameStart_iff.1 start with (⟨lower, upper⟩ | ⟨lower, upper⟩) | rfl
  · have above : 65 ≤ c.toNat := lower
    have below : c.toNat ≤ 90 := upper
    omega
  · have above : 97 ≤ c.toNat := lower
    have below : c.toNat ≤ 122 := upper
    omega
  · decide

/-! ### Segments -/

/-- Joined identifiers are a single one, or one with a dot and joined identifiers behind it. -/
theorem isDotted_iff {text : List Char} : IsDotted text ↔ ∃ segment, IsIdentifier segment ∧
    (text = segment ∨ ∃ others, IsDotted others ∧ text = segment ++ '.' :: others) := by
  constructor
  · rintro ⟨segments, some, identifiers, rfl⟩
    obtain ⟨segment, rest, rfl⟩ := List.exists_cons_of_ne_nil some
    rw [List.forall_mem_cons] at identifiers
    refine ⟨segment, identifiers.1, ?_⟩
    cases rest with
    | nil => exact .inl List.intercalate_singleton
    | cons next rest =>
      refine .inr ⟨_, ⟨next :: rest, List.cons_ne_nil _ _, identifiers.2, rfl⟩, ?_⟩
      rw [List.intercalate_cons_cons, List.append_assoc, List.singleton_append]
  · rintro ⟨segment, identifier, same | ⟨_, ⟨segments, some, identifiers, rfl⟩, same⟩⟩
    · exact ⟨[segment], List.cons_ne_nil _ _, by simpa using identifier, by simpa using same⟩
    · obtain ⟨next, rest, rfl⟩ := List.exists_cons_of_ne_nil some
      refine ⟨segment :: next :: rest, List.cons_ne_nil _ _, List.forall_mem_cons.2 ⟨identifier, identifiers⟩, ?_⟩
      rw [same, List.intercalate_cons_cons, List.append_assoc, List.singleton_append]

/-- What stands behind the first character of joined identifiers: the rest of the first one, and perhaps more. -/
def IsDottedRest (text : List Char) : Prop :=
  ∃ rest, (∀ c ∈ rest, isNamePart c = true) ∧ (text = rest ∨ ∃ others, IsDotted others ∧ text = rest ++ '.' :: others)

theorem not_isDotted_nil : ¬ IsDotted [] := by
  rw [isDotted_iff]
  rintro ⟨_, ⟨-, -⟩, same | ⟨others, -, same⟩⟩ <;> cases same

theorem isDotted_cons_iff {first : Char} {text : List Char} :
    IsDotted (first :: text) ↔ isNameStart first = true ∧ IsDottedRest text := by
  rw [isDotted_iff, isNameStart_iff, IsDottedRest]
  simp only [isNamePart_iff]
  constructor
  · rintro ⟨_, ⟨start, further⟩, same | ⟨others, dotted, same⟩⟩
    · cases same
      exact ⟨start, _, further, .inl rfl⟩
    · rw [List.cons_append, List.cons.injEq] at same
      obtain ⟨rfl, same⟩ := same
      exact ⟨start, _, further, .inr ⟨others, dotted, same⟩⟩
  · rintro ⟨start, rest, further, behind⟩
    refine ⟨first :: rest, .mk start further, behind.imp (congrArg _) ?_⟩
    exact fun ⟨others, dotted, same⟩ => ⟨others, dotted, congrArg _ same⟩

theorem isDottedRest_nil : IsDottedRest [] := ⟨[], fun _ mem => absurd mem List.not_mem_nil, .inl rfl⟩

theorem isDottedRest_dot_iff {text : List Char} : IsDottedRest ('.' :: text) ↔ IsDotted text := by
  constructor
  · rintro ⟨rest, parts, behind⟩
    -- a dot is no part of an identifier, so that the first one ends here
    cases rest with
    | nil =>
      obtain same | ⟨others, dotted, same⟩ := behind
      · cases same
      · cases same
        exact dotted
    | cons c rest =>
      have isDot : c = '.' := by
        obtain same | ⟨others, -, same⟩ := behind <;> exact (List.cons.inj same).1.symm
      exact absurd (isDot ▸ parts c List.mem_cons_self) (by decide)
  · exact fun dotted => ⟨[], fun _ mem => absurd mem List.not_mem_nil, .inr ⟨text, dotted, rfl⟩⟩

theorem isDottedRest_cons_iff {c : Char} {text : List Char} (apart : c ≠ '.') :
    IsDottedRest (c :: text) ↔ isNamePart c = true ∧ IsDottedRest text := by
  constructor
  · rintro ⟨rest, parts, behind⟩
    cases rest with
    | nil =>
      obtain same | ⟨others, -, same⟩ := behind
      · cases same
      · exact absurd (List.cons.inj same).1 apart
    | cons other rest =>
      rw [List.forall_mem_cons] at parts
      obtain same | ⟨others, dotted, same⟩ := behind
      · cases same
        exact ⟨parts.1, _, parts.2, .inl rfl⟩
      · rw [List.cons_append, List.cons.injEq] at same
        obtain ⟨rfl, same⟩ := same
        exact ⟨parts.1, rest, parts.2, .inr ⟨others, dotted, same⟩⟩
  · rintro ⟨part, rest, parts, behind⟩
    refine ⟨c :: rest, List.forall_mem_cons.2 ⟨part, parts⟩, behind.imp (congrArg _) ?_⟩
    exact fun ⟨others, dotted, same⟩ => ⟨others, dotted, congrArg _ same⟩

/-! ### Names -/

theorem withoutFinalBreak_prefix (text : List Char) : withoutFinalBreak text <+: text := by
  rw [withoutFinalBreak]
  split
  · exact List.dropLast_prefix text
  · exact List.prefix_refl text

/-- The two readers of segments, character by character. -/
theorem segments_iff (text : List Char) :
    (startsSegment text = true ↔ IsDotted text) ∧ (continuesSegment text = true ↔ IsDottedRest text) := by
  induction text with
  | nil =>
    rw [startsSegment, continuesSegment]
    exact ⟨iff_of_false Bool.false_ne_true not_isDotted_nil, iff_of_true rfl isDottedRest_nil⟩
  | cons c rest ih =>
    rw [startsSegment, continuesSegment, Bool.and_eq_true, ih.2]
    refine ⟨isDotted_cons_iff.symm, ?_⟩
    split
    · rename_i isDot
      rw [isDot, ih.1, isDottedRest_dot_iff]
    · rename_i apart
      rw [Bool.and_eq_true, ih.2, isDottedRest_cons_iff apart]

theorem lineFeed_not_mem (text : List Char) : (IsDotted text → '\n' ∉ text) ∧ (IsDottedRest text → '\n' ∉ text) := by
  induction text with
  | nil => exact ⟨fun _ => List.not_mem_nil, fun _ => List.not_mem_nil⟩
  | cons c rest ih =>
    simp only [List.mem_cons, not_or]
    constructor
    · rw [isDotted_cons_iff]
      rintro ⟨start, behind⟩
      exact ⟨fun same => absurd (same ▸ start) (by decide), ih.2 behind⟩
    · intro behind
      by_cases isDot : c = '.'
      · rw [isDot, isDottedRest_dot_iff] at behind
        exact ⟨isDot ▸ by decide, ih.1 behind⟩
      · obtain ⟨part, behind⟩ := (isDottedRest_cons_iff isDot).1 behind
        exact ⟨fun same => absurd (same ▸ part) (by decide), ih.2 behind⟩

/-- Names of extensions are joined identifiers, and joined identifiers with a line feed behind them. -/
theorem isExtensionName_iff {name : String} : isExtensionName name = true ↔
    IsDotted name.toList ∨ ∃ text, IsDotted text ∧ name.toList = text ++ ['\n'] := by
  rw [isExtensionName, (segments_iff _).1, withoutFinalBreak]
  split
  · rename_i last
    obtain ⟨text, same⟩ := List.getLast?_eq_some_iff.1 last
    have broken : ¬ IsDotted (text ++ ['\n']) := fun dotted => (lineFeed_not_mem _).1 dotted (by simp)
    simp [same, broken]
  · rename_i other
    refine ⟨.inl, fun named => named.elim id ?_⟩
    rintro ⟨text, -, same⟩
    rw [same, List.getLast?_append] at other
    exact absurd rfl other

/-- A line feed behind a name makes another name, which is no joined identifiers. -/
theorem names_line_feed : isExtensionName "a\n" = true ∧ ¬ IsDotted "a\n".toList :=
  ⟨by decide, fun dotted => (lineFeed_not_mem _).1 dotted (by decide)⟩

end NestedFlow
