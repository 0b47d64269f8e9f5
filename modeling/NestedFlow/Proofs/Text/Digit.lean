import NestedFlow.Text.Digit

/-! Decimal digits and the numbers that they are read as: a number is read back from its own digits, and the digits of a
number that was read are no more than those it was read from.
-/

set_option autoImplicit false

namespace NestedFlow.Text

/-! ### Limits -/

theorem DigitLimit.admits_of_le {limit : DigitLimit} {fewer count : Nat} (le : fewer ≤ count)
    (admitted : limit.admits count = true) : limit.admits fewer = true := by
  cases limit with
  | none => rfl
  | some most => exact decide_eq_true (Nat.le_trans le (of_decide_eq_true admitted))

/-- A number has few enough digits for the usual limit if it lies below the power of ten. -/
theorem writes_maxDigits (n : Int) : DigitLimit.writes (some maxDigits) n = isWritable n := by
  have positive : 0 < maxDigits := by decide
  rw [DigitLimit.writes, DigitLimit.admits, isWritable, Option.all_some]
  generalize maxDigits = most at positive ⊢
  exact decide_eq_decide.2 (Nat.length_toDigits_le_iff (by decide) positive)

/-! ### Digits -/

theorem isSome_decimalIn? {c : Char} {runs : List Range} : (decimalIn? c runs).isSome = inRanges runs c := by
  induction runs with
  | nil => rfl
  | cons run rest ih =>
    rw [decimalIn?, inRanges, List.any_cons]
    split
    · rename_i inside
      rw [inside]
      rfl
    · rename_i outside
      rw [Bool.not_eq_true] at outside
      rw [outside]
      exact ih

/-- Below the superscripts there are no digits but the ASCII ones. -/
theorem isDigit_bounds {c : Char} (digit : isDigit c = true) : c.toNat ≤ 0x39 ∨ 0xB2 ≤ c.toNat := by
  -- the tables are compared range by range, so that no character has to be enumerated
  have apart : ∀ range ∈ decimalRuns ++ otherDigits, range.2 ≤ 0x39 ∨ 0xB2 ≤ range.1 := by decide
  have inside : ∃ range ∈ decimalRuns ++ otherDigits, range.contains c = true := by
    rw [← List.any_eq_true, List.any_append]
    rw [isDigit, decimal?, isSome_decimalIn?] at digit
    exact digit
  obtain ⟨range, mem, contained⟩ := inside
  rw [Range.contains, Bool.and_eq_true, decide_eq_true_eq, decide_eq_true_eq] at contained
  have side := apart range mem
  omega

/-! ### Reading back -/

theorem decimal?_of_isDigit {c : Char} (isDigit : c.isDigit = true) : decimal? c = some (c.toNat - 48) := by
  rw [Char.isDigit, Bool.and_eq_true, decide_eq_true_eq, decide_eq_true_eq] at isDigit
  have lower : 48 ≤ c.toNat := isDigit.1
  have upper : c.toNat ≤ 57 := isDigit.2
  rw [decimal?, decimalRuns, decimalIn?, Range.contains]
  simp only [Bool.and_eq_true, decide_eq_true_eq]
  rw [if_pos ⟨lower, upper⟩, Nat.mod_eq_of_lt (by omega)]

theorem isDigit_of_mem_toDigits {n : Nat} {c : Char} (mem : c ∈ Nat.toDigits 10 n) : isDigit c = true := by
  rw [isDigit, decimal?_of_isDigit (Nat.isDigit_of_mem_toDigits (by decide) (by decide) mem)]
  rfl

theorem foldlM_decimal {digits : List Char} (decimal : ∀ c ∈ digits, c.isDigit = true) (value : Nat) :
    (digits.foldlM (fun value c => (decimal? c).map fun digit => 10 * value + digit) value) =
      some (Nat.ofDigitChars 10 digits value) := by
  induction digits generalizing value with
  | nil => rw [List.foldlM_nil, Nat.ofDigitChars_nil]; rfl
  | cons c rest ih =>
    rw [List.foldlM_cons, decimal?_of_isDigit (decimal c List.mem_cons_self), Nat.ofDigitChars_cons]
    exact ih (fun other mem => decimal other (List.mem_cons_of_mem c mem)) _

/-- A number with few enough digits is read back from them. -/
theorem natOfDigitsWithin?_toDigits {limit : DigitLimit} {n : Nat} (written : limit.writes n = true) :
    natOfDigitsWithin? limit (Nat.toDigits 10 n) = some n := by
  have short : limit.admits (Nat.toDigits 10 n).length = true := written
  rw [natOfDigitsWithin?, if_pos short, foldlM_decimal, Nat.ofDigitChars_ten_toDigits]
  intro c mem
  exact Nat.isDigit_of_mem_toDigits (by decide) (by decide) mem

/-! ### What was read -/

theorem decimal?_lt {c : Char} {digit : Nat} (found : decimal? c = some digit) : digit < 10 := by
  have each : ∀ runs, decimalIn? c runs = some digit → digit < 10 := by
    intro runs
    induction runs with
    | nil => exact fun none => nomatch none
    | cons run rest ih =>
      intro found
      rw [decimalIn?] at found
      split at found
      · cases found
        exact Nat.mod_lt _ (by decide)
      · exact ih found
  exact each decimalRuns found

theorem foldlM_decimal_lt {digits : List Char} {value result : Nat}
    (read : (digits.foldlM (fun value c => (decimal? c).map fun digit => 10 * value + digit) value) = some result) :
    result < (value + 1) * Nat.pow 10 digits.length := by
  induction digits generalizing value with
  | nil =>
    cases read
    exact Nat.lt_of_lt_of_eq (Nat.lt_succ_self _) (Nat.mul_one _).symm
  | cons c rest ih =>
    rw [List.foldlM_cons, Option.bind_eq_bind, Option.bind_eq_some_iff] at read
    obtain ⟨next, first, further⟩ := read
    obtain ⟨digit, isDigit, rfl⟩ := Option.map_eq_some_iff.1 first
    have small := decimal?_lt isDigit
    calc result < (10 * value + digit + 1) * Nat.pow 10 rest.length := ih further
      _ ≤ ((value + 1) * 10) * Nat.pow 10 rest.length := Nat.mul_le_mul_right _ (by omega)
      _ = (value + 1) * (Nat.pow 10 rest.length * 10) := by rw [Nat.mul_assoc, Nat.mul_comm 10]

/-- A number that was read has no more digits than were read, whatever scripts they were of and however many of them
were leading zeros, so that it can be written. -/
theorem writes_of_natOfDigitsWithin? {limit : DigitLimit} {digits : List Char} {n : Nat} (nonempty : digits ≠ [])
    (read : natOfDigitsWithin? limit digits = some n) : limit.writes n = true := by
  rw [natOfDigitsWithin?] at read
  split at read
  · rename_i admitted
    have small := foldlM_decimal_lt read
    rw [Nat.zero_add, Nat.one_mul] at small
    have shorter := (Nat.length_toDigits_le_iff (by decide) (List.length_pos_iff.2 nonempty)).2 small
    exact DigitLimit.admits_of_le shorter admitted
  · cases read

end NestedFlow.Text
