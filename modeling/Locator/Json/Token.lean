import Locator.Json.Basic

/-! The tokens of a JSON text. Blanks vanish, and a text that stops being JSON ends in one token
that says so. -/

namespace Locator

/-- A token of a JSON text. -/
inductive JsonToken where
  /-- `[` -/
  | openArray
  /-- `]` -/
  | closeArray
  /-- `{` -/
  | openObject
  /-- `}` -/
  | closeObject
  /-- `,` -/
  | comma
  /-- `:` -/
  | colon
  /-- `null` -/
  | null
  /-- `true` or `false` -/
  | bool (flag : Bool)
  /-- A number. -/
  | number (number : JsonNumber)
  /-- A string; none when its escapes leave half of a surrogate pair, so that it has no text. -/
  | string (text : Option String)
  /-- From here on the text is not JSON. -/
  | cut
  deriving DecidableEq, Repr

namespace JsonToken

/-- The blanks of JSON. -/
def isBlank (c : Char) : Bool :=
  c = ' ' || c = '\t' || c = '\n' || c = '\r'

/-- The character of a single-letter escape. -/
def simpleEscape? : Char → Option Char
  | '"' => some '"'
  | '\\' => some '\\'
  | '/' => some '/'
  | 'b' => some '\x08'
  | 'f' => some '\x0c'
  | 'n' => some '\n'
  | 'r' => some '\r'
  | 't' => some '\t'
  | _ => none

/-- The value of four hexadecimal digits. -/
def hexQuad? (a b c d : Char) : Option Nat :=
  if [a, b, c, d].all Ascii.isHexDigit then some (Ascii.hexadecimalValue [a, b, c, d]) else none

/-- A piece of a string: one character, or a half of a surrogate pair. -/
inductive Piece where
  /-- A character. -/
  | char (c : Char)
  /-- The first half, by its ten bits. -/
  | high (bits : Nat)
  /-- The second half, by its ten bits. -/
  | low (bits : Nat)
  deriving DecidableEq, Repr

/-- The piece that an escape by code stands for. -/
def Piece.ofCode (code : Nat) : Piece :=
  if 0xD800 ≤ code ∧ code < 0xDC00 then high (code - 0xD800)
  else if 0xDC00 ≤ code ∧ code < 0xE000 then low (code - 0xDC00)
  else char (Char.ofNat code)

/-- The pieces of a string up to its closing quote, and the text after that quote. Controls and
unknown escapes are refused. -/
def readPieces : List Char → Option (List Piece × List Char)
  | [] => none
  | '"' :: rest => some ([], rest)
  -- An escape by code may be half of a pair, which only the next piece can tell.
  | '\\' :: 'u' :: a :: b :: c :: d :: rest => do
    let code ← hexQuad? a b c d
    let (pieces, after) ← readPieces rest
    some (.ofCode code :: pieces, after)
  | '\\' :: c :: rest => do
    let escaped ← simpleEscape? c
    let (pieces, after) ← readPieces rest
    some (.char escaped :: pieces, after)
  | c :: rest =>
    if c.toNat < 0x20 ∨ c = '\\' then none
    else do
      let (pieces, after) ← readPieces rest
      some (.char c :: pieces, after)

/-- The characters of pieces in which every half of a surrogate pair meets its other half. -/
def joinPieces : List Piece → Option (List Char)
  | [] => some []
  | .char c :: rest => (joinPieces rest).map (c :: ·)
  | .high h :: .low l :: rest => (joinPieces rest).map (Char.ofNat (0x10000 + 0x400 * h + l) :: ·)
  | _ => none

/-- The digits at the front of a text. -/
def leadingDigits (text : List Char) : List Char :=
  text.takeWhile Char.isDigit

/-- The text after the digits at its front. -/
def afterDigits (text : List Char) : List Char :=
  text.dropWhile Char.isDigit

/-- The digits before the point: a zero alone or digits that do not start with one. -/
def readWhole (text : List Char) : Option (Nat × List Char) :=
  match leadingDigits text with
  | [] => none
  | ['0'] => some (0, afterDigits text)
  -- A zero in front of other digits is refused.
  | '0' :: _ => none
  | digits => some (Ascii.decimalValue digits, afterDigits text)

/-- The digits after the point, at least one where there is a point. -/
def readFraction (text : List Char) : Option (List (Fin 10) × List Char) :=
  match text with
  | '.' :: after =>
    if leadingDigits after = [] then none
    else some ((leadingDigits after).map fun c => Fin.ofNat 10 (Ascii.digitValue c),
      afterDigits after)
  | _ => some ([], text)

/-- The digits of an exponent, at least one, under a sign. -/
def readSigned (negative : Bool) (text : List Char) : Option (Option Int × List Char) :=
  if leadingDigits text = [] then none
  else
    let value : Int := Ascii.decimalValue (leadingDigits text)
    some (some (if negative then -value else value), afterDigits text)

/-- The exponent, where there is an exponent letter. -/
def readExponent (text : List Char) : Option (Option Int × List Char) :=
  match text with
  | [] => some (none, [])
  | c :: after =>
    if c = 'e' ∨ c = 'E' then
      match after with
      | '-' :: more => readSigned true more
      | '+' :: more => readSigned false more
      | _ => readSigned false after
    else some (none, text)

/-- A number at the front of a text, and the text after it. -/
def readNumber (text : List Char) : Option (JsonNumber × List Char) := do
  let negative := text.head? = some '-'
  let (whole, afterWhole) ← readWhole (if negative then text.drop 1 else text)
  let (fraction, afterFraction) ← readFraction afterWhole
  let (exponent, rest) ← readExponent afterFraction
  some (⟨negative, whole, fraction, exponent⟩, rest)

/-- The token that a text opens with, and the text after it; the text does not open with a blank. -/
def read (text : List Char) : Option (JsonToken × List Char) :=
  match text with
  | [] => none
  | '[' :: rest => some (openArray, rest)
  | ']' :: rest => some (closeArray, rest)
  | '{' :: rest => some (openObject, rest)
  | '}' :: rest => some (closeObject, rest)
  | ',' :: rest => some (comma, rest)
  | ':' :: rest => some (colon, rest)
  | 'n' :: 'u' :: 'l' :: 'l' :: rest => some (null, rest)
  | 't' :: 'r' :: 'u' :: 'e' :: rest => some (bool true, rest)
  | 'f' :: 'a' :: 'l' :: 's' :: 'e' :: rest => some (bool false, rest)
  | '"' :: rest =>
    (readPieces rest).map fun (pieces, after) => (string ((joinPieces pieces).map .ofList), after)
  | _ => (readNumber text).map fun (n, rest) => (number n, rest)

/-- Dropping digits never lengthens the text. -/
theorem afterDigits_length (text : List Char) : (afterDigits text).length ≤ text.length :=
  (List.dropWhile_suffix Char.isDigit).length_le

/-- A string's text ends at or before the end of the text. -/
theorem readPieces_length {text after : List Char} {pieces : List Piece}
    (found : readPieces text = some (pieces, after)) : after.length < text.length := by
  -- Every step drops at least one character, and the last one drops the quote.
  fun_induction readPieces text generalizing pieces after with
  | case1 => simp at found
  | case2 rest =>
    cases found
    simp
  | case3 a b c d rest ih =>
    simp only [Option.bind_eq_bind, Option.bind_eq_some_iff, Option.some.injEq,
      Prod.mk.injEq] at found
    obtain ⟨_, _, ⟨_, _⟩, inner, _, rfl⟩ := found
    have := ih inner
    simp only [List.length_cons]
    omega
  | case4 c rest _ ih =>
    simp only [Option.bind_eq_bind, Option.bind_eq_some_iff, Option.some.injEq,
      Prod.mk.injEq] at found
    obtain ⟨_, _, ⟨_, _⟩, inner, _, rfl⟩ := found
    have := ih inner
    simp only [List.length_cons]
    omega
  | case5 => simp at found
  | case6 c rest _ _ _ _ ih =>
    simp only [Option.bind_eq_bind, Option.bind_eq_some_iff, Option.some.injEq,
      Prod.mk.injEq] at found
    obtain ⟨⟨_, _⟩, inner, _, rfl⟩ := found
    have := ih inner
    simp only [List.length_cons]
    omega

/-- Reading digits before a point drops at least one character. -/
theorem readWhole_length {text rest : List Char} {whole : Nat}
    (found : readWhole text = some (whole, rest)) : rest.length < text.length := by
  -- The digits and the rest make up the text, and there is a digit.
  have lengths := congrArg List.length
    (List.takeWhile_append_dropWhile (p := Char.isDigit) (l := text))
  rw [List.length_append] at lengths
  have present : 0 < (leadingDigits text).length ∧ rest = afterDigits text := by
    unfold readWhole at found
    split at found <;> simp_all
    exact List.length_pos_iff.mpr (by assumption)
  rw [present.2]
  have := present.1
  simp only [leadingDigits, afterDigits] at this ⊢
  omega

/-- Reading a fraction never lengthens the text. -/
theorem readFraction_length {text rest : List Char} {digits : List (Fin 10)}
    (found : readFraction text = some (digits, rest)) : rest.length ≤ text.length := by
  -- Without a point nothing is read, and with one the digits after it are dropped.
  unfold readFraction at found
  split at found
  · rename_i after
    have := afterDigits_length after
    split at found
    · simp at found
    · simp only [Option.some.injEq, Prod.mk.injEq] at found
      rw [← found.2, List.length_cons]
      omega
  · simp only [Option.some.injEq, Prod.mk.injEq] at found
    exact Nat.le_of_eq (congrArg List.length found.2.symm)

/-- Reading the digits of an exponent never lengthens the text. -/
theorem readSigned_length {negative : Bool} {text rest : List Char} {exponent : Option Int}
    (found : readSigned negative text = some (exponent, rest)) : rest.length ≤ text.length := by
  -- The rest is what follows the digits.
  unfold readSigned at found
  split at found
  · simp at found
  · simp only [Option.some.injEq, Prod.mk.injEq] at found
    exact found.2 ▸ afterDigits_length text

/-- Reading an exponent never lengthens the text. -/
theorem readExponent_length {text rest : List Char} {exponent : Option Int}
    (found : readExponent text = some (exponent, rest)) : rest.length ≤ text.length := by
  -- Only the letter, a sign and digits are dropped.
  unfold readExponent at found
  split at found
  · simp_all
  · split at found
    · split at found <;>
      · have := readSigned_length found
        simp_all only [List.length_cons]
        omega
    · simp only [Option.some.injEq, Prod.mk.injEq] at found
      exact Nat.le_of_eq (congrArg List.length found.2.symm)

/-- Reading a number drops at least one character. -/
theorem readNumber_length {text rest : List Char} {number : JsonNumber}
    (found : readNumber text = some (number, rest)) : rest.length < text.length := by
  -- The digits before the point are dropped, and nothing is put back.
  simp only [readNumber, Option.bind_eq_bind, Option.bind_eq_some_iff, Option.some.injEq,
    Prod.mk.injEq, Prod.exists] at found
  obtain ⟨_, _, first, _, _, second, _, _, third, _, rfl⟩ := found
  have one := readWhole_length first
  have two := readFraction_length second
  have three := readExponent_length third
  have unsigned : (if text.head? = some '-' then text.drop 1 else text).length
      ≤ text.length := by
    split <;> simp
  omega

/-- Reading a token drops at least one character. -/
theorem read_length {text rest : List Char} {token : JsonToken}
    (found : read text = some (token, rest)) : rest.length < text.length := by
  -- Punctuation and words are dropped whole; strings and numbers drop their text.
  unfold read at found
  split at found
  case h_11 after =>
    obtain ⟨⟨pieces, behind⟩, inner, same⟩ := Option.map_eq_some_iff.mp found
    cases same
    have := readPieces_length inner
    simp only [List.length_cons]
    omega
  case h_12 =>
    obtain ⟨⟨number, behind⟩, inner, same⟩ := Option.map_eq_some_iff.mp found
    cases same
    exact readNumber_length inner
  all_goals
    simp only [Option.some.injEq, Prod.mk.injEq, reduceCtorEq] at found
  all_goals
    rw [← found.2]
    simp only [List.length_cons]
    omega

/-- The tokens of a text in order, up to its end or to where it stops being JSON. -/
def ofText (text : List Char) : List JsonToken :=
  match text with
  | [] => []
  | c :: rest =>
    if isBlank c then ofText rest
    else
      -- A text that opens with no token is cut there, and nothing after it counts.
      match _ : read (c :: rest) with
      | none => [cut]
      | some (token, after) => token :: ofText after
termination_by text.length
decreasing_by
  · simp
  · exact read_length ‹_›

end JsonToken

end Locator
