import Locator.Proofs.Text.Percent

/-! Texts in which every triplet is whole: none ends within a triplet, and none is cut by a join. -/

namespace Locator

namespace Percent

/-- A text of characters of a class and of whole triplets. -/
inductive IsWhole (allowed : Char → Prop) : List Char → Prop where
  /-- The empty text. -/
  | nil : IsWhole allowed []
  /-- A character of the class. -/
  | char {c : Char} {rest : List Char} (known : allowed c) (others : IsWhole allowed rest) :
    IsWhole allowed (c :: rest)
  /-- The triplet of a byte. -/
  | triplet (byte : UInt8) {rest : List Char} (others : IsWhole allowed rest) :
    IsWhole allowed (Percent.triplet byte ++ rest)

namespace IsWhole

variable {allowed : Char → Prop}

/-- Two whole texts make up a whole one. -/
theorem append {front back : List Char} (first : IsWhole allowed front)
    (second : IsWhole allowed back) : IsWhole allowed (front ++ back) := by
  -- The characters and triplets of the first text stand in front of the second.
  induction first with
  | nil => exact second
  | char known _ ih => exact .char known ih
  | triplet byte _ ih =>
    rw [List.append_assoc]
    exact .triplet byte ih

/-- Characters of the class make up a whole text. -/
theorem chars {text : List Char} (known : ∀ c ∈ text, allowed c) : IsWhole allowed text := by
  -- Each character stands for itself.
  induction text with
  | nil => exact .nil
  | cons c rest ih =>
    have behind := ih fun d member => known d (List.mem_cons_of_mem _ member)
    exact .char (known c List.mem_cons_self) behind

/-- Triplets make up a whole text. -/
theorem triplets (bytes : List UInt8) : IsWhole allowed (bytes.flatMap Percent.triplet) := by
  -- Each byte gives one triplet.
  induction bytes with
  | nil => exact .nil
  | cons byte more ih => exact .triplet byte ih

/-- An encoded text is whole when the characters that are kept are of the class. -/
theorem encode {keep : Char → Bool} (kept : ∀ c, keep c → allowed c) (text : List Char) :
    IsWhole allowed (Percent.encode keep text) := by
  -- A character is kept or becomes the triplets of its bytes.
  induction text with
  | nil => exact .nil
  | cons c rest ih =>
    have here : IsWhole allowed (encodeChar keep c) := by
      unfold encodeChar
      split
      · exact .char (kept c ‹_›) .nil
      · exact triplets (Utf8.encodeChar c)
    rw [encode_cons]
    exact here.append ih

/-- In a whole text every percent sign stands at the front of the triplet of a byte, unless the
class has percent signs. -/
theorem exists_triplet {text front rest : List Char} (whole : IsWhole allowed text)
    (sign : ¬ allowed '%') (same : text = front ++ '%' :: rest) :
    ∃ byte behind, '%' :: rest = Percent.triplet byte ++ behind := by
  -- The induction passes a character or a triplet at the front of the text.
  induction whole generalizing front with
  | nil => simp at same
  | @char c others known _ ih =>
    cases front with
    | nil => exact absurd ((List.cons.inj same).1 ▸ known) sign
    | cons d more => exact ih (List.cons.inj same).2
  | @triplet byte others _ ih =>
    -- The digits of a triplet are hexadecimal and so no percent signs.
    have size := byte.toNat_lt
    have noSign : ∀ value < 16, Ascii.hexDigit value ≠ '%' := by decide
    -- The percent sign opens the triplet, is one of its digits, or stands behind it.
    rcases front with _ | ⟨first, _ | ⟨second, _ | ⟨third, more⟩⟩⟩
    · exact ⟨byte, others, same.symm⟩
    · simp only [Percent.triplet, List.cons_append, List.nil_append, List.cons.injEq] at same
      exact absurd same.2.1 (noSign _ (by omega))
    · simp only [Percent.triplet, List.cons_append, List.nil_append, List.cons.injEq] at same
      exact absurd same.2.2.1 (noSign _ (by omega))
    · simp only [Percent.triplet, List.cons_append, List.nil_append, List.cons.injEq] at same
      exact ih same.2.2.2

/-- In a whole text every percent sign opens a triplet, unless the class has percent signs. -/
theorem opensTriplet {text front rest : List Char} (whole : IsWhole allowed text)
    (sign : ¬ allowed '%') (same : text = front ++ '%' :: rest) :
    Percent.opensTriplet rest := by
  obtain ⟨byte, behind, opened⟩ := whole.exists_triplet sign same
  -- The two digits of the byte have their values.
  have size := byte.toNat_lt
  have high := Ascii.hexValue?_hexDigit (byte.toNat / 16) (by omega)
  have low := Ascii.hexValue?_hexDigit (byte.toNat % 16) (by omega)
  simp only [Percent.triplet, List.cons_append, List.nil_append, List.cons.injEq, true_and] at opened
  simp [opened, Percent.opensTriplet, Ascii.isHexDigit, high, low]

end IsWhole

end Percent

end Locator
