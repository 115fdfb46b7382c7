import Locator.Proofs.Json.Reading
import Locator.Proofs.Text.Digits

/-! The one-line form of a JSON value is a layout of its tokens, so that it is read back. -/

namespace Locator

namespace JsonNumber

open JsonToken

/-- Written digits are read up to what follows them. -/
theorem leadingDigits_digits {digits rest : List Char} (all : ∀ c ∈ digits, c.isDigit)
    (ends : ∀ c ∈ rest.head?, c.isDigit = false) :
    leadingDigits (digits ++ rest) = digits ∧ afterDigits (digits ++ rest) = rest := by
  rw [leadingDigits, afterDigits, List.takeWhile_append_of_pos all,
    List.dropWhile_append_of_pos all]
  -- The run of digits ends where the text behind it begins.
  cases rest with
  | nil => simp
  | cons c rest => simp [ends c rfl]

/-- A number in base ten has digits only. -/
theorem isDigit_toDigits (n : Nat) : ∀ c ∈ Nat.toDigits 10 n, c.isDigit :=
  fun _ => Ascii.isDigit_of_mem_toDigits

/-- The digits before the point are read up to what follows them. -/
theorem readWhole_toDigits (n : Nat) {rest : List Char}
    (ends : ∀ c ∈ rest.head?, c.isDigit = false) :
    readWhole (Nat.toDigits 10 n ++ rest) = some (n, rest) := by
  obtain ⟨leading, behind⟩ :=
    leadingDigits_digits (isDigit_toDigits n) ends
  have value := Ascii.decimalValue_toDigits n
  rw [readWhole, leading, behind]
  split
  · rename_i none
    exact absurd none Nat.toDigits_ne_nil
  · rename_i zero
    rw [zero] at value
    rw [← value]
    rfl
  · -- Only zero opens with a zero.
    rename_i more other same
    rcases Nat.eq_zero_or_pos n with rfl | positive
    · exact absurd same (by simpa using other)
    · exact absurd (congrArg List.head? same) (Ascii.head?_toDigits_ne positive)
  · rw [value]

/-- The digits after the point are read as they are written. -/
theorem readFraction_write (fraction : List (Fin 10)) {rest : List Char}
    (ends : ∀ c ∈ rest.head?, c.isDigit = false) (unpointed : '.' ∉ rest.head?) :
    readFraction ((if fraction.isEmpty then []
        else '.' :: fraction.map fun digit => Nat.digitChar digit.val) ++ rest) =
      some (fraction, rest) := by
  cases fraction with
  | nil =>
    -- Without digits there is no point, and none follows.
    rw [List.isEmpty_nil, if_pos rfl, List.nil_append, readFraction.eq_2]
    rintro after rfl
    exact unpointed rfl
  | cons digit fraction =>
    -- The ten digits are checked one by one.
    have isDigit : ∀ digit : Fin 10, (Nat.digitChar digit.val).isDigit := by
      decide
    have value : ∀ digit : Fin 10,
        Fin.ofNat 10 (Ascii.digitValue (Nat.digitChar digit.val)) = digit := by
      decide
    have same : (fun c => Fin.ofNat 10 (Ascii.digitValue c)) ∘
        (fun digit : Fin 10 => Nat.digitChar digit.val) = id := funext value
    have all : ∀ c ∈ (digit :: fraction).map fun digit => Nat.digitChar digit.val, c.isDigit := by
      intro c member
      obtain ⟨written, -, rfl⟩ := List.mem_map.mp member
      exact isDigit written
    obtain ⟨leading, behind⟩ := leadingDigits_digits all ends
    rw [List.isEmpty_cons, if_neg Bool.false_ne_true, List.cons_append, readFraction, leading,
      behind, if_neg (by simp), List.map_map, same, List.map_id]

/-- The digits of an exponent are read under its sign. -/
theorem readSigned_toDigits (negative : Bool) (n : Nat) :
    readSigned negative (Nat.toDigits 10 n) =
      some (some (if negative then -(n : Int) else n), []) := by
  -- All digits are taken, and they denote the number.
  have ends : ∀ c ∈ ([] : List Char).head?, c.isDigit = false := by simp
  obtain ⟨leading, behind⟩ :=
    leadingDigits_digits (isDigit_toDigits n) ends
  rw [List.append_nil] at leading behind
  rw [readSigned, leading, behind, if_neg Nat.toDigits_ne_nil, Ascii.decimalValue_toDigits]

/-- The exponent is read as it is written. -/
theorem readExponent_writeExponent (exponent : Int) :
    readExponent ('e' :: writeExponent exponent) = some (some exponent, []) := by
  rw [readExponent.eq_def, writeExponent]
  simp only [true_or, if_true]
  by_cases negative : exponent < 0
  · rw [if_pos negative]
    simp only [readSigned_toDigits, if_true]
    rw [Int.ofNat_natAbs_of_nonpos (by omega), Int.neg_neg]
  · -- The first digit is no sign.
    rw [if_neg negative]
    split
    · rename_i same
      exact absurd (same ▸ List.mem_cons_self) (Ascii.not_mem_toDigits rfl _)
    · rename_i same
      exact absurd (same ▸ List.mem_cons_self) (Ascii.not_mem_toDigits rfl _)
    · rw [readSigned_toDigits, if_neg Bool.false_ne_true, Int.natAbs_of_nonneg (by omega)]

/-- A written number is read as that number. -/
theorem readNumber_write (number : JsonNumber) : readNumber number.write = some (number, []) := by
  obtain ⟨negative, whole, fraction, exponent⟩ := number
  let fractionText : List Char := if fraction.isEmpty then []
    else '.' :: fraction.map fun digit => Nat.digitChar digit.val
  let exponentText : List Char := exponent.elim [] fun exponent => 'e' :: writeExponent exponent
  -- Each part is read up to the next, whose first character is no part of it.
  have third : readExponent exponentText = some (exponent, []) := by
    cases exponent with
    | none => rfl
    | some exponent => exact readExponent_writeExponent exponent
  have second : readFraction (fractionText ++ exponentText) = some (fraction, exponentText) := by
    apply readFraction_write
    · cases exponent <;> simp [exponentText]
    · cases exponent <;> simp [exponentText]
  have first : readWhole (Nat.toDigits 10 whole ++ (fractionText ++ exponentText)) =
      some (whole, fractionText ++ exponentText) := by
    apply readWhole_toDigits
    cases fraction <;> cases exponent <;> simp [fractionText, exponentText]
  have whole_write : write ⟨negative, whole, fraction, exponent⟩ = (if negative then ['-'] else [])
      ++ (Nat.toDigits 10 whole ++ (fractionText ++ exponentText)) := by
    simp only [write, List.append_assoc]
    cases exponent <;> rfl
  rw [readNumber, whole_write]
  cases negative with
  | true => simp [first, second, third]
  | false =>
    -- Without a sign the text starts with a digit, which is no minus.
    have unsigned : (Nat.toDigits 10 whole).head? ≠ some '-' := fun minus =>
      Ascii.not_mem_toDigits rfl whole (List.mem_of_mem_head? minus)
    simp [unsigned, first, second, third]

end JsonNumber

namespace Json

open JsonToken

/-- A control is spelled by its two hexadecimal digits behind two zeros. -/
theorem hexQuad?_control : ∀ code < 0x20,
    hexQuad? '0' '0' (Nat.digitChar (code / 16)) (Nat.digitChar (code % 16)) = some code := by
  -- There are thirty-two controls.
  decide

/-- An escaped character is a spelling of the character. -/
theorem spellsChar_escapeChar (c : Char) : SpellsChar c (escapeChar c) := by
  unfold escapeChar
  split
  -- Only what has no letter of its own is a code or stands for itself.
  case h_8 unquoted unescaped _ _ _ _ _ =>
    split
    · exact .code (hexQuad?_control c.toNat ‹_›)
    · rename_i visible
      exact .plain (Nat.not_lt.mp visible) unquoted unescaped
  all_goals exact .simple rfl

/-- An escaped text is a spelling of the text. -/
theorem spellsText_escape (text : List Char) : SpellsText text (text.flatMap escapeChar) := by
  -- By induction on the text; each character spells itself.
  induction text with
  | nil => exact .nil
  | cons c text ih => exact .cons (spellsChar_escapeChar c) ih

/-- A quoted text is a spelling of its token. -/
theorem spells_quote (text : String) : Spells (.string (some text)) (quote text) :=
  .string (spellsText_escape text.toList)

/-- A token without blanks in front continues a layout. -/
theorem layout_cons {token : JsonToken} {tokens : List JsonToken} {spelling rest : List Char}
    (spelled : Spells token spelling) (ends : token.isNumber → endsNumber rest)
    (others : Layout tokens rest) : Layout (token :: tokens) (spelling ++ rest) :=
  @Layout.cons _ _ [] _ _ rfl spelled ends others

mutual

/-- A value on one line is a layout of its tokens, whatever they are followed by. -/
theorem layout_compact_append (json : Json) {tokens : List JsonToken} {rest : List Char}
    (ends : endsNumber rest) (others : Layout tokens rest) :
    Layout (json.tokens ++ tokens) (json.compact ++ rest) := by
  -- The induction is on the value; the containers leave it to their items and members.
  cases json with
  | null => exact layout_cons .null nofun others
  | bool flag =>
    cases flag with
    | true => exact layout_cons (.bool true) nofun others
    | false => exact layout_cons (.bool false) nofun others
  | number n => exact layout_cons (.number (JsonNumber.readNumber_write n)) (fun _ => ends) others
  | string text => exact layout_cons (spells_quote text) nofun others
  | array items =>
    rw [Json.tokens, compact, List.cons_append, List.cons_append]
    exact layout_cons .openArray nofun (layout_compactItems items others)
  | object members =>
    rw [Json.tokens, compact, List.cons_append, List.cons_append]
    exact layout_cons .openObject nofun (layout_compactMembers members others)

/-- Array items on one line are a layout of their tokens. -/
theorem layout_compactItems (items : List Json) {tokens : List JsonToken} {rest : List Char}
    (others : Layout tokens rest) :
    Layout (itemTokens items ++ tokens) (compactItems items ++ rest) := by
  cases items with
  | nil => exact layout_cons .closeArray nofun others
  | cons item items =>
    cases items with
    | nil =>
      rw [itemTokens, compactItems, List.append_assoc, List.append_assoc]
      -- A closing bracket ends a number.
      refine layout_compact_append item ?_ (layout_cons .closeArray nofun others)
      simp [endsNumber, continuesNumber]
    | cons next items =>
      have behind := layout_compactItems (next :: items) others
      rw [itemTokens, compactItems, List.append_assoc, List.append_assoc, List.cons_append,
        List.cons_append]
      · -- A comma ends a number.
        refine layout_compact_append item ?_ (layout_cons .comma nofun behind)
        simp [endsNumber, continuesNumber]
      all_goals exact List.cons_ne_nil _ _

/-- Object members on one line are a layout of their tokens. -/
theorem layout_compactMembers (members : List (String × Json)) {tokens : List JsonToken}
    {rest : List Char} (others : Layout tokens rest) :
    Layout (memberTokens members ++ tokens) (compactMembers members ++ rest) := by
  -- Between two members there is a comma, and behind the last one the brace. Either ends a number.
  cases members with
  | nil => exact layout_cons .closeObject nofun others
  | cons member members =>
    obtain ⟨key, value⟩ := member
    cases members with
    | nil =>
      -- The brace follows the only member.
      simp only [memberTokens, compactMembers, List.append_assoc, List.cons_append,
        List.nil_append]
      refine layout_cons (spells_quote key) nofun (layout_cons .colon nofun ?_)
      refine layout_compact_append value ?_ (layout_cons .closeObject nofun others)
      simp [endsNumber, continuesNumber]
    | cons next members =>
      -- A comma follows the first of several members.
      have behind := layout_compactMembers (next :: members) others
      rw [memberTokens, compactMembers]
      · simp only [List.append_assoc, List.cons_append]
        refine layout_cons (spells_quote key) nofun (layout_cons .colon nofun ?_)
        refine layout_compact_append value ?_ (layout_cons .comma nofun behind)
        simp [endsNumber, continuesNumber]
      all_goals exact List.cons_ne_nil _ _

end

/-- A value on one line is a layout of its tokens. -/
theorem layout_compact (json : Json) : Layout json.tokens json.compact := by
  -- Nothing stands behind the value.
  have whole := @layout_compact_append json [] [] nofun (.nil rfl)
  rwa [List.append_nil, List.append_nil] at whole

/-- A value is read back from its one-line form. -/
theorem read_compact (json : Json) :
    JsonDraft.read (.ofList json.compact) = (json.draft, []) := by
  -- The compact text is one layout of the value.
  apply JsonDraft.read_of_layout
  rw [String.toList_ofList]
  exact layout_compact json

end Json

end Locator
