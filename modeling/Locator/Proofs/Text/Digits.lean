import Locator.Text.Ascii

/-! Numbers in digits: what is written in base ten or sixteen denotes the number. -/

namespace Locator

namespace Ascii

/-- No small letter is a digit. -/
theorem isDigit_of_isLower {c : Char} (letter : c.isLower) : c.isDigit = false := by
  -- The digits end in front of the small letters.
  have ends : '9'.val.toNat < 'a'.val.toNat := by decide
  have range : (decide (c.val ≥ 'a'.val) && decide (c.val ≤ 'z'.val)) = true := letter
  simp only [Bool.and_eq_true, decide_eq_true_eq, UInt32.le_iff_toNat_le] at range
  simp only [Char.isDigit, Bool.and_eq_false_iff, decide_eq_false_iff_not, UInt32.le_iff_toNat_le]
  omega

/-- A digit has the value that it was written for. -/
theorem hexValue?_digitChar : ∀ value < 16, hexValue? (Nat.digitChar value) = some value := by
  -- There are sixteen digits.
  decide

/-- The decimal digits of a number denote it. -/
@[simp]
theorem decimalValue_toDigits (n : Nat) : decimalValue (Nat.toDigits 10 n) = n :=
  Nat.ofDigitChars_ten_toDigits

/-- The hexadecimal digits of a number denote it. -/
@[simp]
theorem hexadecimalValue_toDigits (n : Nat) : hexadecimalValue (Nat.toDigits 16 n) = n := by
  -- The last digit is what is left over by sixteen.
  induction n using Nat.base_induction 16 (by decide) with
  | single value small =>
    rw [Nat.toDigits_of_lt_base small]
    simp [hexadecimalValue, hexValue?_digitChar value small]
  | digit value last small positive ih =>
    rw [← Nat.toDigits_append_toDigits (by decide) positive small, Nat.toDigits_of_lt_base small]
    unfold hexadecimalValue at ih ⊢
    rw [List.foldl_append, ih]
    simp [hexValue?_digitChar last small]

/-- Hexadecimal digits are ASCII characters. -/
theorem toNat_lt_of_isHexDigit {c : Char} (digit : isHexDigit c) : c.toNat < 128 := by
  -- Each of the three ranges ends below the bound.
  unfold isHexDigit hexValue? at digit
  split at digit
  · rename_i decimal
    simp only [Char.isDigit, Bool.and_eq_true, decide_eq_true_eq] at decimal
    exact Nat.lt_of_le_of_lt (UInt32.le_iff_toNat_le.mp decimal.2) (by decide)
  · split at digit
    · rename_i small
      exact Nat.lt_of_le_of_lt (UInt32.le_iff_toNat_le.mp small.2) (by decide)
    · split at digit
      · rename_i capital
        exact Nat.lt_of_le_of_lt (UInt32.le_iff_toNat_le.mp capital.2) (by decide)
      · simp at digit

/-- A number in base sixteen has hexadecimal digits only. -/
theorem isHexDigit_of_mem_toDigits {c : Char} {n : Nat} (member : c ∈ Nat.toDigits 16 n) :
    isHexDigit c := by
  -- Each digit is one of the sixteen.
  induction n using Nat.base_induction 16 (by decide) with
  | single value small =>
    rw [Nat.toDigits_of_lt_base small, List.mem_singleton] at member
    rw [member, isHexDigit, hexValue?_digitChar value small]
    rfl
  | digit value last small positive ih =>
    rw [← Nat.toDigits_append_toDigits (by decide) positive small, Nat.toDigits_of_lt_base small]
      at member
    rcases List.mem_append.mp member with front | back
    · exact ih front
    · rw [List.mem_singleton.mp back, isHexDigit, hexValue?_digitChar last small]
      rfl

/-- A number in base ten has decimal digits only. -/
theorem isDigit_of_mem_toDigits {c : Char} {n : Nat} (member : c ∈ Nat.toDigits 10 n) : c.isDigit :=
  Nat.isDigit_of_mem_toDigits (by decide) (by decide) member

/-- What is no decimal digit does not stand in a number in base ten. -/
theorem not_mem_toDigits {c : Char} (other : c.isDigit = false) (n : Nat) :
    c ∉ Nat.toDigits 10 n := by
  -- All characters of a number are digits.
  intro member
  have digit := isDigit_of_mem_toDigits member
  simp [other] at digit

/-- A positive number is written without a zero in front. -/
theorem head?_toDigits_ne {n : Nat} (positive : 0 < n) : (Nat.toDigits 10 n).head? ≠ some '0' := by
  -- The first digit of a longer number is that of the number without its last digit.
  induction n using Nat.base_induction 10 (by decide) with
  | single value small =>
    rw [Nat.toDigits_of_lt_base small]
    exact (show ∀ digit < 10, 0 < digit → [Nat.digitChar digit].head? ≠ some '0' by decide)
      value small positive
  | digit value last small filled ih =>
    rw [← Nat.toDigits_append_toDigits (by decide) filled small,
      List.head?_append]
    intro zero
    rcases Option.or_eq_some_iff.mp zero with first | ⟨none, -⟩
    · exact ih filled first
    · exact Nat.toDigits_ne_nil (List.head?_eq_none_iff.mp none)

end Ascii

end Locator
