import Locator.Json.Token

/-! The texts that a list of JSON tokens can be written as: every token in one of its spellings,
with blanks wherever the grammar has them. However it is laid out, the text has these tokens. -/

namespace Locator

namespace JsonToken

/-- The spellings of a character inside a string: itself, a letter after a backslash, its code, or
the codes of the two halves of its surrogate pair. -/
inductive SpellsChar : Char → List Char → Prop where
  /-- Neither a control nor a quote nor a backslash stands for itself. -/
  | plain {c : Char} (visible : 0x20 ≤ c.toNat) (unquoted : c ≠ '"') (unescaped : c ≠ '\\') :
    SpellsChar c [c]
  /-- A letter after a backslash. -/
  | simple {c letter : Char} (known : simpleEscape? letter = some c) : SpellsChar c ['\\', letter]
  /-- A code of four digits. -/
  | code {c d₁ d₂ d₃ d₄ : Char} (digits : hexQuad? d₁ d₂ d₃ d₄ = some c.toNat) :
    SpellsChar c ['\\', 'u', d₁, d₂, d₃, d₄]
  /-- The codes of two halves, each with ten bits. -/
  | pair {high low : Nat} {d₁ d₂ d₃ d₄ e₁ e₂ e₃ e₄ : Char} (highBound : high < 0x400)
    (lowBound : low < 0x400) (first : hexQuad? d₁ d₂ d₃ d₄ = some (0xD800 + high))
    (second : hexQuad? e₁ e₂ e₃ e₄ = some (0xDC00 + low)) :
    SpellsChar (Char.ofNat (0x10000 + 0x400 * high + low))
      ['\\', 'u', d₁, d₂, d₃, d₄, '\\', 'u', e₁, e₂, e₃, e₄]

/-- The spellings of a text inside a string, character by character. -/
inductive SpellsText : List Char → List Char → Prop where
  /-- Nothing spells no characters. -/
  | nil : SpellsText [] []
  /-- A spelling for each character. -/
  | cons {c : Char} {spelling text body : List Char} (first : SpellsChar c spelling)
    (rest : SpellsText text body) : SpellsText (c :: text) (spelling ++ body)

/-- The spellings of a token. -/
inductive Spells : JsonToken → List Char → Prop where
  /-- An opening bracket. -/
  | openArray : Spells openArray ['[']
  /-- A closing bracket. -/
  | closeArray : Spells closeArray [']']
  /-- An opening brace. -/
  | openObject : Spells openObject ['\x7b']
  /-- A closing brace. -/
  | closeObject : Spells closeObject ['\x7d']
  /-- A comma. -/
  | comma : Spells comma [',']
  /-- A colon. -/
  | colon : Spells colon [':']
  /-- The word for nothing. -/
  | null : Spells null "null".toList
  /-- The word for a truth value. -/
  | bool (flag : Bool) : Spells (bool flag) (if flag then "true".toList else "false".toList)
  /-- A number, which takes up its whole spelling. -/
  | number {n : JsonNumber} {spelling : List Char} (spelled : readNumber spelling = some (n, [])) :
    Spells (number n) spelling
  /-- A text between quotes. -/
  | string {text : String} {body : List Char} (spelled : SpellsText text.toList body) :
    Spells (string (some text)) ('"' :: (body ++ ['"']))

/-- Whether a character behind a number would belong to it. -/
def continuesNumber (c : Char) : Bool :=
  c.isDigit || c = '.' || c = 'e' || c = 'E'

/-- Whether a number ends where the given text begins. -/
def endsNumber (rest : List Char) : Prop :=
  ∀ c ∈ rest.head?, continuesNumber c = false

/-- Whether a token is a number. -/
def isNumber : JsonToken → Bool
  | number _ => true
  | _ => false

/-- The texts that tokens can be laid out as. -/
inductive Layout : List JsonToken → List Char → Prop where
  /-- No tokens, and blanks only. -/
  | nil {blanks : List Char} (blank : blanks.all isBlank) : Layout [] blanks
  /-- Blanks and a spelling of the first token, which the rest does not lengthen. -/
  | cons {token : JsonToken} {tokens : List JsonToken} {blanks spelling rest : List Char}
    (blank : blanks.all isBlank) (spelled : Spells token spelling)
    (ends : token.isNumber → endsNumber rest) (others : Layout tokens rest) :
    Layout (token :: tokens) (blanks ++ (spelling ++ rest))

section Strings

/-- The code of a character stands for that character. -/
theorem Piece.ofCode_toNat (c : Char) : Piece.ofCode c.toNat = .char c := by
  -- No character has the code of a half.
  have valid : c.toNat < 0xD800 ∨ 0xDFFF < c.toNat := c.valid.imp id And.left
  rw [ofCode, if_neg (by omega), if_neg (by omega), Char.ofNat_toNat]

/-- Reading goes on behind a character that stands for itself. -/
theorem readPieces_plain {c : Char} (visible : 0x20 ≤ c.toNat) (unquoted : c ≠ '"')
    (unescaped : c ≠ '\\') (rest : List Char) :
    readPieces (c :: rest) =
      (readPieces rest).map fun found => (.char c :: found.1, found.2) := by
  -- The equations in front of this one ask for a quote or a backslash.
  rw [readPieces.eq_5 _ _ unquoted (fun _ _ _ _ _ same => absurd same unescaped)
    (fun _ _ same => absurd same unescaped), if_neg (by simp [visible, unescaped])]
  cases readPieces rest <;> rfl

/-- Reading goes on behind a letter that a backslash stands in front of. -/
theorem readPieces_simple {c letter : Char} (known : simpleEscape? letter = some c)
    (rest : List Char) :
    readPieces ('\\' :: letter :: rest) =
      (readPieces rest).map fun found => (.char c :: found.1, found.2) := by
  -- The letter is none that a code could follow.
  have noCode : letter ≠ 'u' := by
    rintro rfl
    cases known
  rw [readPieces.eq_4 _ _ (fun _ _ _ _ _ same => absurd same noCode), known]
  cases readPieces rest <;> rfl

/-- Reading goes on behind a code of four digits. -/
theorem readPieces_code {d₁ d₂ d₃ d₄ : Char} {code : Nat}
    (digits : hexQuad? d₁ d₂ d₃ d₄ = some code) (rest : List Char) :
    readPieces ('\\' :: 'u' :: d₁ :: d₂ :: d₃ :: d₄ :: rest) =
      (readPieces rest).map fun found => (.ofCode code :: found.1, found.2) := by
  -- The four digits are taken together, and the rest is read on its own.
  rw [readPieces.eq_3, digits]
  cases readPieces rest <;> rfl

/-- A spelling of a character is read as pieces that make up the character. -/
theorem SpellsChar.exists_pieces {c : Char} {spelling : List Char}
    (spells : SpellsChar c spelling) :
    ∃ pieces,
      (∀ rest, readPieces (spelling ++ rest) =
        (readPieces rest).map fun found => (pieces ++ found.1, found.2)) ∧
      ∀ more, joinPieces (pieces ++ more) = (joinPieces more).map (c :: ·) := by
  cases spells with
  | plain visible unquoted unescaped =>
    exact ⟨[.char c], readPieces_plain visible unquoted unescaped, fun more => rfl⟩
  | simple known => exact ⟨[.char c], readPieces_simple known, fun more => rfl⟩
  | code digits =>
    -- Four digits give the code of a character that is no half.
    refine ⟨[.char c], fun rest => ?_, fun more => rfl⟩
    exact Piece.ofCode_toNat c ▸ readPieces_code digits rest
  | pair highBound lowBound first second =>
    rename_i high low d₁ d₂ d₃ d₄ e₁ e₂ e₃ e₄
    refine ⟨[.high high, .low low], fun rest => ?_, fun more => rfl⟩
    -- Each half keeps its ten bits, which are put together again when the pieces are joined.
    have upper : Piece.ofCode (0xD800 + high) = .high high := by
      rw [Piece.ofCode, if_pos (by omega), Nat.add_sub_cancel_left]
    have lower : Piece.ofCode (0xDC00 + low) = .low low := by
      rw [Piece.ofCode, if_neg (by omega), if_pos (by omega), Nat.add_sub_cancel_left]
    change readPieces ('\\' :: 'u' :: d₁ :: d₂ :: d₃ :: d₄ :: '\\' :: 'u' :: e₁ :: e₂ :: e₃ :: e₄
      :: rest) = _
    rw [readPieces_code first, readPieces_code second, upper, lower, Option.map_map]
    rfl

/-- A spelled text is read up to its closing quote. -/
theorem SpellsText.exists_pieces {text body : List Char} (spells : SpellsText text body) :
    ∃ pieces, joinPieces pieces = some text ∧
      ∀ rest, readPieces (body ++ '"' :: rest) = some (pieces, rest) := by
  -- The induction is on the characters; the last step meets the quote.
  induction spells with
  | nil => exact ⟨[], rfl, readPieces.eq_2⟩
  | @cons c spelling text body first rest ih =>
    obtain ⟨front, read, join⟩ := first.exists_pieces
    obtain ⟨pieces, joined, readRest⟩ := ih
    refine ⟨front ++ pieces, by rw [join, joined, Option.map_some], fun after => ?_⟩
    rw [List.append_assoc, read, readRest, Option.map_some]

end Strings

section Numbers

variable {spelling rest after : List Char}

/-- Where a number ends, no digit follows. -/
theorem isDigit_of_endsNumber (ends : endsNumber rest) : ∀ c ∈ rest.head?, c.isDigit = false := by
  -- A digit would continue the number.
  intro c first
  have other := ends c first
  simp only [continuesNumber, Bool.or_eq_false_iff] at other
  exact other.1.1.1

/-- Digits at the front of a text do not reach into a text that opens with none. -/
theorem leadingDigits_append (ends : ∀ c ∈ rest.head?, c.isDigit = false) :
    leadingDigits (spelling ++ rest) = leadingDigits spelling ∧
      afterDigits (spelling ++ rest) = afterDigits spelling ++ rest := by
  induction spelling with
  | nil =>
    cases rest with
    | nil => exact ⟨rfl, rfl⟩
    | cons c rest =>
      simp [leadingDigits, afterDigits, ends c rfl]
  | cons c spelling ih =>
    obtain ⟨leading, behind⟩ := ih
    -- The first character is a digit or ends the digits, whatever follows.
    unfold leadingDigits afterDigits at *
    rw [List.cons_append, List.takeWhile_cons, List.takeWhile_cons, List.dropWhile_cons,
      List.dropWhile_cons]
    split <;> simp_all

/-- The digits before the point are the same whatever follows the number. -/
theorem readWhole_append {whole : Nat} (found : readWhole spelling = some (whole, after))
    (ends : endsNumber rest) : readWhole (spelling ++ rest) = some (whole, after ++ rest) := by
  -- What is behind the number has no digit in front, so the digits are the same.
  obtain ⟨leading, behind⟩ := @leadingDigits_append spelling rest (isDigit_of_endsNumber ends)
  unfold readWhole at found ⊢
  rw [leading, behind]
  split at found <;> simp_all

/-- The fraction is the same whatever follows the number. -/
theorem readFraction_append {fraction : List (Fin 10)}
    (found : readFraction spelling = some (fraction, after)) (ends : endsNumber rest) :
    readFraction (spelling ++ rest) = some (fraction, after ++ rest) := by
  unfold readFraction at found
  split at found
  · -- Behind the point the digits end inside the spelling.
    rename_i digits
    obtain ⟨leading, behind⟩ := @leadingDigits_append digits rest (isDigit_of_endsNumber ends)
    rw [List.cons_append, readFraction, leading, behind]
    split at found <;> simp_all
  · rename_i unpointed
    cases found
    rw [readFraction.eq_2]
    intro digits same
    cases spelling with
    | nil =>
      -- A point would be the first character of what follows.
      exact absurd (ends '.' (by rw [List.nil_append] at same; rw [same]; rfl)) (by decide)
    | cons c spelling => exact unpointed spelling (by rw [(List.cons.inj same).1])

/-- The digits of an exponent are the same whatever follows the number. -/
theorem readSigned_append {negative : Bool} {exponent : Option Int}
    (found : readSigned negative spelling = some (exponent, after)) (ends : endsNumber rest) :
    readSigned negative (spelling ++ rest) = some (exponent, after ++ rest) := by
  -- What is behind the number has no digit in front, so the digits are the same.
  obtain ⟨leading, behind⟩ := @leadingDigits_append spelling rest (isDigit_of_endsNumber ends)
  unfold readSigned at found ⊢
  rw [leading, behind]
  split at found <;> simp_all

/-- The exponent is the same whatever follows the number. -/
theorem readExponent_append {exponent : Option Int}
    (found : readExponent spelling = some (exponent, after)) (ends : endsNumber rest) :
    readExponent (spelling ++ rest) = some (exponent, after ++ rest) := by
  cases spelling with
  | nil =>
    -- What follows opens with no exponent letter.
    cases found
    cases rest with
    | nil => rfl
    | cons c rest =>
      have other := ends c rfl
      simp only [continuesNumber, Bool.or_eq_false_iff, decide_eq_false_iff_not] at other
      simp [readExponent, other]
  | cons c spelling =>
    simp only [readExponent, List.cons_append] at found ⊢
    split at found
    · -- The sign, if there is one, stands in the spelling.
      rename_i letter
      rw [if_pos letter]
      split at found
      · -- A minus.
        exact readSigned_append found ends
      · -- A plus.
        exact readSigned_append found ends
      · -- Without a sign the spelling itself goes on, and what follows it adds none.
        rename_i noMinus noPlus
        cases spelling with
        | nil => cases found
        | cons sign spelling =>
          rw [List.cons_append]
          split
          · rename_i same
            exact (noMinus spelling (by rw [(List.cons.inj same).1])).elim
          · rename_i same
            exact (noPlus spelling (by rw [(List.cons.inj same).1])).elim
          · exact readSigned_append found ends
    · -- Without the letter there is no exponent, and nothing was read.
      rename_i letter
      rw [if_neg letter]
      cases found
      rfl

/-- A number is the same whatever follows it. -/
theorem readNumber_append {n : JsonNumber} (found : readNumber spelling = some (n, after))
    (ends : endsNumber rest) : readNumber (spelling ++ rest) = some (n, after ++ rest) := by
  -- A number is not empty, so that its sign stands in the spelling itself.
  cases spelling with
  | nil => cases found
  | cons c spelling =>
    simp only [readNumber, Option.bind_eq_bind, Option.bind_eq_some_iff, Option.some.injEq,
      Prod.mk.injEq, Prod.exists] at found
    obtain ⟨whole, afterWhole, first, fraction, afterFraction, second, exponent, _, third, rfl,
      rfl⟩ := found
    -- The three parts follow one another, and each of them may be followed by anything more.
    by_cases minus : c = '-'
    · simp only [minus, List.head?_cons, List.drop_one, List.tail_cons, if_true] at first
      simp [readNumber, minus, readWhole_append first ends, readFraction_append second ends,
        readExponent_append third ends]
    · simp only [List.head?_cons, Option.some.injEq, minus, if_false] at first
      have longer := readWhole_append first ends
      rw [List.cons_append] at longer
      simp [readNumber, minus, longer, readFraction_append second ends,
        readExponent_append third ends]

/-- Digits before a point open with a digit. -/
theorem exists_of_readWhole {whole : Nat} (found : readWhole spelling = some (whole, after)) :
    ∃ c more, spelling = c :: more ∧ c.isDigit := by
  -- Without a digit in front there is no number.
  cases spelling with
  | nil => cases found
  | cons c more =>
    refine ⟨c, more, rfl, Decidable.byContradiction fun noDigit => ?_⟩
    have none : leadingDigits (c :: more) = [] := by
      rw [leadingDigits, List.takeWhile_cons_of_neg noDigit]
    simp [readWhole, none] at found

/-- A number opens with a digit, or with a minus sign in front of one. -/
theorem exists_of_readNumber {n : JsonNumber} (found : readNumber spelling = some (n, after)) :
    ∃ c more, spelling = c :: more ∧
      (c.isDigit ∨ c = '-' ∧ ∃ digit ∈ more.head?, digit.isDigit) := by
  cases spelling with
  | nil => cases found
  | cons c more =>
    simp only [readNumber, Option.bind_eq_bind, Option.bind_eq_some_iff, Prod.exists] at found
    obtain ⟨whole, afterWhole, first, -⟩ := found
    refine ⟨c, more, rfl, ?_⟩
    -- The digits come first or right behind the sign.
    by_cases minus : c = '-'
    · rw [if_pos (by simp [minus])] at first
      obtain ⟨digit, others, same, isDigit⟩ := exists_of_readWhole first
      simp only [List.drop_one, List.tail_cons] at same
      exact .inr ⟨minus, digit, by rw [same]; rfl, isDigit⟩
    · rw [if_neg (by simp [minus])] at first
      obtain ⟨digit, others, same, isDigit⟩ := exists_of_readWhole first
      cases same
      exact .inl isDigit

end Numbers

section Tokens

/-- What opens with a minus sign or a digit is read as a number. -/
theorem read_number {c : Char} {more : List Char} (opening : c.isDigit ∨ c = '-') :
    read (c :: more) = (readNumber (c :: more)).map fun (n, rest) => (number n, rest) := by
  -- No other token opens so.
  rw [read.eq_12]
  all_goals
    intros
    rename_i same
    cases same
  all_goals
    revert opening
    decide

/-- A spelled token is read, whatever follows it. -/
theorem Spells.read_append {token : JsonToken} {spelling rest : List Char}
    (spelled : Spells token spelling) (ends : token.isNumber → endsNumber rest) :
    read (spelling ++ rest) = some (token, rest) := by
  cases spelled with
  | number found =>
    -- The first character tells a number from all other tokens.
    obtain ⟨c, more, rfl, opening⟩ := exists_of_readNumber found
    have longer := readNumber_append found (ends rfl)
    rw [List.cons_append] at longer ⊢
    rw [read_number (opening.imp_right And.left), longer]
    rfl
  | string spelledText =>
    rename_i text body
    obtain ⟨pieces, joined, found⟩ := spelledText.exists_pieces
    -- The closing quote belongs to the spelling, so that the text ends there.
    have whole : '"' :: (body ++ ['"']) ++ rest = '"' :: (body ++ '"' :: rest) := by simp
    rw [whole, read, found]
    simp [joined]
  | bool flag => cases flag <;> rfl
  | _ => rfl

/-- A spelling is not empty and opens with no blank. -/
theorem Spells.exists_cons {token : JsonToken} {spelling : List Char}
    (spelled : Spells token spelling) : ∃ c more, spelling = c :: more ∧ isBlank c = false := by
  cases spelled with
  | number found =>
    obtain ⟨c, more, rfl, opening⟩ := exists_of_readNumber found
    refine ⟨c, more, rfl, Bool.eq_false_iff.mpr fun blank => ?_⟩
    -- A number opens with a digit or a minus sign, and none of the four blanks is either.
    simp only [isBlank, Bool.or_eq_true, decide_eq_true_eq] at blank
    obtain ((rfl | rfl) | rfl) | rfl := blank <;>
      exact absurd (opening.imp_right And.left) (by decide)
  | bool flag => cases flag <;> exact ⟨_, _, rfl, rfl⟩
  | _ => exact ⟨_, _, rfl, rfl⟩

/-- Blanks in front of a text do not change its tokens. -/
theorem ofText_append_of_blank {blanks : List Char} (blank : blanks.all isBlank)
    (text : List Char) : ofText (blanks ++ text) = ofText text := by
  -- By induction on the blanks, which are passed over one by one.
  induction blanks with
  | nil => rfl
  | cons c blanks ih =>
    rw [List.all_cons, Bool.and_eq_true] at blank
    rw [List.cons_append, ofText, if_pos blank.1, ih blank.2]

/-- However tokens are laid out, the text has these tokens. -/
theorem Layout.ofText_eq {tokens : List JsonToken} {text : List Char}
    (layout : Layout tokens text) : ofText text = tokens := by
  induction layout with
  | @nil blanks blank =>
    -- Blanks alone hold no token.
    have none := ofText_append_of_blank blank []
    rw [List.append_nil] at none
    rw [none, ofText]
  | cons blank spelled ends others ih =>
    -- Behind the blanks stands a character that is none.
    obtain ⟨c, more, rfl, visible⟩ := spelled.exists_cons
    have found := spelled.read_append ends
    rw [ofText_append_of_blank blank, List.cons_append, ofText, if_neg (by simp [visible])]
    rw [List.cons_append] at found
    -- The token in front is read off, and the others follow by induction.
    split
    · rename_i none
      rw [found] at none
      cases none
    · rename_i same
      rw [found] at same
      cases same
      rw [ih]

end Tokens

end JsonToken

end Locator
