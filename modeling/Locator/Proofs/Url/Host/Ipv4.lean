import Locator.Proofs.Text.Digits
import Locator.Proofs.Text.Fields
import Locator.Url.Host.Ipv4

/-! IPv4 addresses come back from their four decimal bytes. -/

namespace Locator

namespace Ipv4

/-- A byte is read back from its decimal digits, which have no needless zero in front. -/
theorem number?_toDigits : ∀ byte < 256, number? (Nat.toDigits 10 byte) = some byte := by
  -- All 256 values are read.
  decide +kernel

/-- Every byte of an address is below 256. -/
theorem lt_of_mem_bytes {address : Ipv4} {byte : Nat} (member : byte ∈ address.bytes) :
    byte < 256 := by
  -- The first byte is what is left of thirty-two bits, the others are remainders.
  have size := address.bits.toNat_lt
  simp only [bytes, List.mem_cons, List.not_mem_nil, or_false] at member
  rcases member with same | same | same | same <;> omega

/-- The four bytes make up the address. -/
theorem ofNumbers?_bytes (address : Ipv4) : ofNumbers? address.bytes = some address := by
  -- Each byte has its own place among the 32 bits.
  have size := address.bits.toNat_lt
  have front : address.bytes.dropLast.all (· ≤ 255) = true := by
    rw [List.all_eq_true]
    intro byte member
    have small := lt_of_mem_bytes (List.dropLast_subset _ member)
    simpa using Nat.le_of_lt_succ small
  have last : address.bytes.getLast? = some (address.bits.toNat % 256) := rfl
  have placed : address.bytes.dropLast.foldl (fun value byte => 256 * value + byte) 0 * 256 ^ 1 +
      address.bits.toNat % 256 = address.bits.toNat := by
    simp only [bytes, List.dropLast, List.foldl_cons, List.foldl_nil]
    omega
  have length : address.bytes.dropLast.length = 3 := rfl
  rw [ofNumbers?, last]
  simp only [length, front, placed]
  rw [if_pos ⟨by decide, trivial, by omega⟩, UInt32.ofNat_toNat]

/-- The dots of the written form stand between the bytes. -/
theorem fields_text (address : Ipv4) :
    fields '.' address.text = address.bytes.map (Nat.toDigits 10) := by
  -- No byte is written with a dot.
  refine fields_joinFields (by simp [bytes]) ?_
  intro digits member
  obtain ⟨byte, -, rfl⟩ := List.mem_map.mp member
  exact Ascii.not_mem_toDigits (by decide) byte

/-- The last part of the written form is the last byte. -/
theorem getLast?_digits (address : Ipv4) :
    (address.bytes.map (Nat.toDigits 10)).getLast? =
      some (Nat.toDigits 10 (address.bits.toNat % 256)) := rfl

/-- No part of the written form is missing. -/
theorem parts_text (address : Ipv4) : parts address.text = address.bytes.map (Nat.toDigits 10) := by
  -- The last byte has a digit, so nothing is dropped.
  rw [parts, fields_text]
  simp only [getLast?_digits]
  exact if_neg (by simp)

/-- The written form ends in a number. -/
theorem endsInNumber_text (address : Ipv4) : endsInNumber address.text = true := by
  -- The last byte is written in digits, which are read as a number.
  have number := number?_toDigits (address.bits.toNat % 256) (by omega)
  rw [endsInNumber, parts_text, getLast?_digits]
  simp [number]

/-- An address is read back from its written form. -/
theorem read?_text (address : Ipv4) : read? address.text = some address := by
  -- Each byte is read back from its digits, and the four bytes make up the address.
  have numbers : (address.bytes.map (Nat.toDigits 10)).mapM number? = some address.bytes :=
    mapM_map_eq_some fun byte member => number?_toDigits byte (lt_of_mem_bytes member)
  rw [read?, parts_text, numbers]
  exact ofNumbers?_bytes address

/-- An address is written in decimal digits and dots. -/
theorem mem_text {address : Ipv4} {c : Char} (member : c ∈ address.text) :
    c.isDigit ∨ c = '.' := by
  -- What stands between the dots are the digits of a byte.
  rcases mem_joinFields member with same | ⟨digits, written, inside⟩
  · exact .inr same
  · obtain ⟨byte, -, rfl⟩ := List.mem_map.mp written
    exact .inl (Nat.isDigit_of_mem_toDigits (by decide) (by decide) inside)

/-- The labels of a domain are its parts, but for an empty one at the end. -/
theorem parts_joinFields_concat {labels : List (List Char)} {last : List Char}
    (whole : ∀ label ∈ labels ++ [last], '.' ∉ label) :
    parts (joinFields '.' (labels ++ [last])) =
      if last = [] then labels else labels ++ [last] := by
  -- Only the last label is left out, and only if it is empty.
  rw [parts, fields_joinFields (by simp) whole]
  simp

/-- A label that is put in the place of another becomes the last part, or the last part stays. -/
theorem getLast?_parts_replace {before after : List (List Char)} {old new : List Char}
    (whole : ∀ label ∈ before ++ [old, new] ++ after, '.' ∉ label) (filled : new ≠ []) :
    (parts (joinFields '.' (before ++ [new] ++ after))).getLast? = some new ∨
      (parts (joinFields '.' (before ++ [new] ++ after))).getLast? =
        (parts (joinFields '.' (before ++ [old] ++ after))).getLast? := by
  simp only [List.forall_mem_append, List.forall_mem_cons] at whole
  obtain ⟨⟨front, first, second, -⟩, back⟩ := whole
  rcases List.eq_nil_or_concat after with rfl | ⟨inner, last, rfl⟩
  · -- The replaced label is the last one, and it is not empty.
    left
    have known : ∀ label ∈ before ++ [new], '.' ∉ label := by
      simp only [List.forall_mem_append, List.forall_mem_cons]
      exact ⟨front, second, nofun⟩
    rw [List.append_nil, parts_joinFields_concat known]
    simp [filled]
  rw [List.concat_eq_append] at back ⊢
  have cut (label : List Char) (known : '.' ∉ label) :
      parts (joinFields '.' (before ++ [label] ++ (inner ++ [last]))) =
        if last = [] then before ++ [label] ++ inner else before ++ [label] ++ inner ++ [last] := by
    rw [← List.append_assoc, parts_joinFields_concat]
    simp only [List.forall_mem_append, List.forall_mem_cons] at back ⊢
    exact ⟨⟨⟨front, known, nofun⟩, back.1⟩, back.2⟩
  rw [cut new second, cut old first]
  -- Only where the last label is empty, the one in front of it is the last part.
  split
  · rcases List.eq_nil_or_concat inner with rfl | ⟨others, next, rfl⟩
    · -- The replaced label stands in front of the empty one.
      left
      rw [List.append_nil, List.getLast?_concat]
    · -- A label behind the replaced one is the last part in both texts.
      right
      rw [List.concat_eq_append, ← List.append_assoc, ← List.append_assoc, List.getLast?_concat,
        List.getLast?_concat]
  · -- The last label is not empty, and it is the last part in both texts.
    right
    rw [List.getLast?_concat, List.getLast?_concat]

/-- A text that starts with a small letter is no number. -/
theorem number?_of_isLower {c : Char} {rest : List Char} (letter : c.isLower) :
    number? (c :: rest) = none := by
  -- A number starts with a digit, also one with a mark of its base in front.
  have zero : c ≠ '0' := by
    rintro rfl
    exact absurd letter (by decide)
  unfold number?
  split
  · rfl
  · rename_i same
    exact absurd (List.cons.inj same).1 zero
  · rename_i same
    exact absurd (List.cons.inj same).1 zero
  · rename_i same
    exact absurd (List.cons.inj same).1 zero
  -- Without a mark all characters have to be decimal digits.
  · simp [Ascii.isDigit_of_isLower letter]

/-- A label that starts with a small letter makes no address of a domain that is none. -/
theorem endsInNumber_replace {before after : List (List Char)} {old rest : List Char} {c : Char}
    (whole : ∀ label ∈ before ++ [old, c :: rest] ++ after, '.' ∉ label) (letter : c.isLower)
    (word : endsInNumber (joinFields '.' (before ++ [old] ++ after)) = false) :
    endsInNumber (joinFields '.' (before ++ [c :: rest] ++ after)) = false := by
  -- The last label is the new one, which is no number, or the same as before.
  rcases getLast?_parts_replace whole (List.cons_ne_nil c rest) with same | same
  · rw [endsInNumber, same]
    simp [number?_of_isLower letter, Ascii.isDigit_of_isLower letter]
  · rwa [endsInNumber, same]

end Ipv4

end Locator
