/-! Classes of characters: sets of them as ranges of code points, and those of ASCII with the values
of their digits. -/

namespace Locator

-- Libraries of algebra bring equal powers of their own, which would stand in the place of these
-- where such a library is imported.
attribute [instance (high), default_instance (high)] instPowNat

/-- Whether a character lies in one of the ranges, each of which includes both of its ends. -/
def inRanges (ranges : List (Nat × Nat)) (c : Char) : Bool :=
  ranges.any fun (first, last) => first ≤ c.toNat ∧ c.toNat ≤ last

/-- Whether a character lies in one of the ranges at an even distance from the start of the range.
-/
def inAlternating (ranges : List (Nat × Nat)) (c : Char) : Bool :=
  ranges.any fun (first, last) =>
    first ≤ c.toNat ∧ c.toNat ≤ last ∧ (c.toNat - first) % 2 = 0

namespace Ascii

/-- The characters that a URI component may always hold as they are. -/
def isUnreserved (c : Char) : Bool :=
  c.isAlphanum || c = '-' || c = '.' || c = '_' || c = '~'

/-- Tab, line feed and carriage return, which a URL text may hold anywhere without effect. -/
def isTabOrNewline (c : Char) : Bool :=
  c = '\t' || c = '\n' || c = '\r'

/-- The controls below the space, and the space itself. -/
def isControlOrSpace (c : Char) : Bool :=
  c.toNat ≤ 0x20

/-- The value of a decimal digit. -/
def digitValue (c : Char) : Nat :=
  c.toNat - '0'.toNat

/-- The number that a run of decimal digits denotes; no digit denotes zero. -/
def decimalValue (digits : List Char) : Nat :=
  digits.foldl (fun value c => 10 * value + digitValue c) 0

/-- The value of a hexadecimal digit of either case. -/
def hexValue? (c : Char) : Option Nat :=
  if c.isDigit then some (digitValue c)
  else if 'a' ≤ c ∧ c ≤ 'f' then some (c.toNat - 'a'.toNat + 10)
  else if 'A' ≤ c ∧ c ≤ 'F' then some (c.toNat - 'A'.toNat + 10)
  else none

/-- A hexadecimal digit of either case. -/
def isHexDigit (c : Char) : Bool :=
  (hexValue? c).isSome

/-- The number that a run of hexadecimal digits denotes. -/
def hexadecimalValue (digits : List Char) : Nat :=
  digits.foldl (fun value c => 16 * value + (hexValue? c).getD 0) 0

/-- The upper-case hexadecimal digit of a value below sixteen. -/
def hexDigit (value : Nat) : Char :=
  if value < 10 then Char.ofNat ('0'.toNat + value) else Char.ofNat ('A'.toNat + (value - 10))

/-- The text without its leading and trailing characters of a class. -/
def trim (blank : Char → Bool) (text : List Char) : List Char :=
  ((text.dropWhile blank).reverse.dropWhile blank).reverse

end Ascii

end Locator
