import Locator.Document.Json
import Locator.Document.Scalar
import Locator.Proofs.Json.Writing

/-! The documents of JSON values: collections hold the documents of their parts, and what an integer
of 64 bits holds is the same in YAML. -/

namespace Locator

namespace Document

/-- An array that may stand at its depth is a sequence. -/
theorem ofDraft_array (depth : Nat) (items : List JsonDraft) :
    ofDraft (depth + 1) (.array items) = sequence (ofDrafts depth items) := by
  -- The depth is not used up.
  rw [ofDraft, if_neg (Nat.succ_ne_zero depth), Nat.add_sub_cancel]

/-- An object that may stand at its depth is a mapping. -/
theorem ofDraft_object (depth : Nat) (members : List (Option String × JsonDraft)) :
    ofDraft (depth + 1) (.object members) = mapping (ofMembers depth members) := by
  -- The depth is not used up.
  rw [ofDraft, if_neg (Nat.succ_ne_zero depth), Nat.add_sub_cancel]

end Document

namespace Scalar

/-- A decimal digit has its value in base ten. -/
theorem digit?_of_isDigit {c : Char} (digit : c.isDigit) :
    digit? 10 c = some (Ascii.digitValue c) := by
  -- The value of a decimal digit is its distance from zero, nine at most.
  have small : Ascii.digitValue c < 10 := by
    simp only [Char.isDigit, Bool.and_eq_true, decide_eq_true_eq] at digit
    have high := UInt32.le_iff_toNat_le.mp digit.2
    have reads : c.toNat = c.val.toNat := rfl
    have zero : '0'.toNat = 48 := rfl
    rw [Ascii.digitValue, zero]
    simp at high
    omega
  simp [digit?, Ascii.hexValue?, digit, small]

/-- Decimal digits are read as the number that they denote. -/
theorem digits?_of_isDigit {digits : List Char} (filled : digits ≠ [])
    (all : ∀ c ∈ digits, c.isDigit) : digits? 10 digits = some (Ascii.decimalValue digits) := by
  -- Every digit has its value, and the values are summed up as in base ten.
  have values : digits.mapM (digit? 10) = some (digits.map Ascii.digitValue) := by
    clear filled
    induction digits with
    | nil => rfl
    | cons c digits ih =>
      rw [List.forall_mem_cons] at all
      rw [List.mapM_cons, digit?_of_isDigit all.1, ih all.2]
      rfl
  rw [digits?, if_neg (by simpa using filled), values, Option.map_some, List.foldl_map]
  rfl

/-- A number in base ten has no zero in front. -/
theorem not_padded (n : Nat) :
    (decide (1 < (Nat.toDigits 10 n).length) && decide ((Nat.toDigits 10 n).head? = some '0')) =
      false := by
  -- Zero is a single digit, and no other number opens with one.
  rcases Nat.eq_zero_or_pos n with rfl | positive
  · rfl
  · simp [Ascii.head?_toDigits_ne positive]

/-- The digits of a number are read as the number. -/
theorem natural?_toDigits (n : Nat) : natural? (Nat.toDigits 10 n) = some n := by
  have digits : digits? 10 (Nat.toDigits 10 n) = some n := by
    rw [digits?_of_isDigit Nat.toDigits_ne_nil (JsonNumber.isDigit_toDigits n),
      Ascii.decimalValue_toDigits]
  unfold natural?
  split
  · -- A zero and a letter in front would announce another base.
    rename_i letter more same
    have padded := not_padded n
    simp [same] at padded
  · exact digits

/-- The digits of a number stand for the number, with a minus sign or without a sign. -/
theorem unsigned_toDigits (n : Nat) :
    unsigned (Nat.toDigits 10 n) = Nat.toDigits 10 n ∧
      unsigned ('-' :: Nat.toDigits 10 n) = Nat.toDigits 10 n := by
  -- There is no sign among the digits.
  refine ⟨if_neg ?_, if_pos (.inr rfl)⟩
  rintro (plus | minus)
  · exact Ascii.not_mem_toDigits rfl n (List.mem_of_mem_head? plus)
  · exact Ascii.not_mem_toDigits rfl n (List.mem_of_mem_head? minus)

/-- A natural number of 64 bits is an integer. -/
theorem integer?_toDigits {n : Nat} (small : n < 2 ^ 64) :
    integer? (Nat.toDigits 10 n) = some (.integer n) := by
  -- Without a sign all digits belong to the number.
  have noMinus : (Nat.toDigits 10 n).head? ≠ some '-' := fun minus =>
    Ascii.not_mem_toDigits rfl n (List.mem_of_mem_head? minus)
  have unpadded : isPadded (Nat.toDigits 10 n) = false := by
    rw [isPadded, (unsigned_toDigits n).1, not_padded, Bool.false_and]
  rw [integer?, unpadded, (unsigned_toDigits n).1, natural?_toDigits]
  simp [noMinus, small]

/-- A negative number of 64 bits is an integer. -/
theorem integer?_minus {n : Nat} (small : n ≤ 2 ^ 63) :
    integer? ('-' :: Nat.toDigits 10 n) = some (.integer (-n)) := by
  -- Behind the sign there are digits without a zero in front, and the number is within its bound.
  have unpadded : isPadded ('-' :: Nat.toDigits 10 n) = false := by
    rw [isPadded, (unsigned_toDigits n).2, not_padded, Bool.false_and]
  rw [integer?, unpadded, (unsigned_toDigits n).2, natural?_toDigits]
  simp [small]

/-- What opens with a digit or a minus sign and spells an integer is no word of YAML. -/
theorem ofPlain_of_integer? {c : Char} {more : List Char} (opens : c = '-' ∨ c.isDigit) {i : Int}
    (spelled : integer? (c :: more) = some (.integer i)) : ofPlain (c :: more) = .integer i := by
  -- All words of YAML open with a letter or a tilde.
  have missing : ∀ words : List String,
      (words.all fun word => word.toList.head?.all fun other => !(other == '-' || other.isDigit)) →
        words.contains (String.ofList (c :: more)) = false := by
    intro words outside
    refine Bool.eq_false_iff.mpr fun member => ?_
    have first := List.all_eq_true.mp outside _ (List.contains_iff_mem.mp member)
    simp only [String.toList_ofList, List.head?_cons, Option.all_some, Bool.not_eq_true',
      Bool.or_eq_false_iff, beq_eq_false_iff_ne] at first
    exact opens.elim first.1 (Bool.eq_false_iff.mp first.2)
  have noNull : isNull (c :: more) = false := missing _ rfl
  have noBool : bool? (c :: more) = none := by
    rw [bool?, missing _ rfl, missing _ rfl]
    rfl
  simp [ofPlain, noNull, noBool, spelled]

end Scalar

namespace JsonNumber

/-- An integer is written as its decimal digits, behind a minus sign when it is negative. -/
theorem write_ofInt (i : Int) :
    (ofInt i).write = (if i < 0 then ['-'] else []) ++ Nat.toDigits 10 i.natAbs := by
  -- The sign and the magnitude are written one after the other.
  by_cases negative : i < 0
  · simp [write, ofInt, negative]
  · simp [write, ofInt, negative]

/-- An integer of 64 bits holds itself. -/
theorem scalar?_integer {i : Int} (low : -2 ^ 63 ≤ i) (high : i < 2 ^ 64) :
    (ofInt i).scalar? = some (.integer i) := by
  by_cases negative : i < 0
  · -- Behind the minus sign stands the magnitude, which is not zero.
    have positive : 0 < i.natAbs := by omega
    have small : i.natAbs ≤ 2 ^ 63 := by omega
    have same : -(i.natAbs : Int) = i := by omega
    simp only [scalar?, ofInt, negative, positive, small, same, List.isEmpty_nil,
      Option.isNone_none, decide_true, and_self, Bool.and_self, Bool.not_true, Bool.and_false,
      Bool.false_and, Bool.false_eq_true, if_true, if_false]
  · have small : i.natAbs < 2 ^ 64 := by omega
    have same : (i.natAbs : Int) = i := by omega
    simp [scalar?, ofInt, negative, small, same]

/-- The digits of an integer of 64 bits are that integer in YAML too. -/
theorem ofPlain_write {i : Int} (low : -2 ^ 63 ≤ i) (high : i < 2 ^ 64) :
    Scalar.ofPlain (ofInt i).write = .integer i := by
  have digit : ∀ c ∈ (Nat.toDigits 10 i.natAbs).head?, c.isDigit := fun c first =>
    isDigit_toDigits _ c (List.mem_of_mem_head? first)
  rw [write_ofInt]
  by_cases negative : i < 0
  · -- The magnitude fits in 64 bits with its sign.
    have small : i.natAbs ≤ 2 ^ 63 := by omega
    have same : -(i.natAbs : Int) = i := by omega
    have held := Scalar.integer?_minus small
    rw [same] at held
    rw [if_pos negative]
    exact Scalar.ofPlain_of_integer? (.inl rfl) held
  · -- Without a minus sign the first character is a digit.
    have small : i.natAbs < 2 ^ 64 := by omega
    have same : (i.natAbs : Int) = i := by omega
    have held := Scalar.integer?_toDigits small
    obtain ⟨c, more, front⟩ :=
      List.exists_cons_of_ne_nil (@Nat.toDigits_ne_nil i.natAbs 10)
    rw [front] at held digit
    rw [same] at held
    rw [if_neg negative, List.nil_append, front]
    exact Scalar.ofPlain_of_integer? (.inr (digit c rfl)) held

/-- An integer of 64 bits holds the same in both notations. -/
theorem scalar?_ofInt {i : Int} (low : -2 ^ 63 ≤ i) (high : i < 2 ^ 64) :
    (ofInt i).scalar? = some (.ofPlain (ofInt i).write) := by
  -- An integer within the bounds is a scalar, and its text is read as the same one.
  rw [scalar?_integer low high, ofPlain_write low high]

end JsonNumber

end Locator
