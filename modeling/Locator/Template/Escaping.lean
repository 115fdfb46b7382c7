import Locator.Text.Percent

/-! Escaped values: percent-encoding with some characters left as they are. -/

namespace Locator

/-- A text of which a part at the front is written. -/
structure Escaped where
  /-- What is written for that part. -/
  written : List Char
  /-- The offset behind it. -/
  stop : Nat
  deriving DecidableEq, Repr

namespace Escaped

/-- Nothing is written at first. -/
def start : Escaped :=
  ⟨[], 0⟩

/-- Writes on up to a character that is left as it is: the bytes before it encoded, then itself. -/
def keep? (bytes : List UInt8) (escaped : Escaped) (place : Nat × Char) : Option Escaped := do
  let (offset, c) := place
  let gap ← slice? bytes escaped.stop offset
  return ⟨escaped.written ++ Percent.encodeBytes gap ++ [c], offset + c.utf8Size⟩

/-- Writes the bytes that are left. -/
def finish? (bytes : List UInt8) (escaped : Escaped) : Option (List Char) := do
  let gap ← slice? bytes escaped.stop bytes.length
  return escaped.written ++ Percent.encodeBytes gap

end Escaped

/-- A text with every byte percent-encoded that is not unreserved, between the safe characters of
the text, which are left as they are. There is none if that cut a character apart. -/
def escapeBetween? (safe text : String) : Option (List Char) := do
  let bytes := Utf8.encode text.toList
  let places := occurrences safe.toList.contains 0 text.toList
  let escaped ← places.foldlM (Escaped.keep? bytes) Escaped.start
  escaped.finish? bytes

/-- A text with every character percent-encoded that is neither unreserved nor listed as safe. Where
none is listed the text is encoded in one piece. -/
def escape (safe text : String) : List Char :=
  if safe.isEmpty then Percent.encodeBytes (Utf8.encode text.toList)
  -- What lies between safe characters are whole characters, so that there always is a result.
  else (escapeBetween? safe text).getD []

/-- Which characters of a value an operator leaves as they are, beside the unreserved ones. -/
inductive Escaping where
  /-- None. -/
  | all
  /-- The five characters that `+` and `#` keep. -/
  | reserved
  deriving DecidableEq, Repr

namespace Escaping

/-- The characters that the reserved-keeping operators leave as they are. -/
def reservedSafe : String := "/!,.;"

/-- The characters left as they are beside the unreserved ones. -/
def safe : Escaping → String
  | all => ""
  | reserved => reservedSafe

/-- A text under an escaping policy. -/
def apply (escaping : Escaping) (text : String) : List Char :=
  escape escaping.safe text

end Escaping

end Locator
