import Locator.Text.Ascii
import Locator.Text.Fields

/-! IPv4 addresses: the loose numbers that hosts may spell them with, and their written form. -/

namespace Locator

/-- An IPv4 address as a 32-bit number. -/
structure Ipv4 where
  /-- The number. -/
  bits : UInt32
  deriving DecidableEq, Repr

namespace Ipv4

/-- The number that a part spells: hexadecimal after `0x`, octal after another leading zero, else
decimal. The bare `0x` is zero. -/
def number? (part : List Char) : Option Nat :=
  match part with
  | [] => none
  | '0' :: 'x' :: digits | '0' :: 'X' :: digits =>
    if digits.all Ascii.isHexDigit then some (Ascii.hexadecimalValue digits) else none
  | '0' :: c :: digits =>
    if (c :: digits).all fun d => '0' ≤ d ∧ d ≤ '7' then
      some ((c :: digits).foldl (fun value d => 8 * value + Ascii.digitValue d) 0)
    else none
  | _ => if part.all Char.isDigit then some (Ascii.decimalValue part) else none

/-- The dot-separated parts of a domain, without an empty one at the end. -/
def parts (domain : List Char) : List (List Char) :=
  let all := fields '.' domain
  if all.getLast? = some [] then all.dropLast else all

/-- Whether a domain has to be an IPv4 address, because its last part is a number. -/
def endsInNumber (domain : List Char) : Bool :=
  match (parts domain).getLast? with
  | none => false
  -- Digits count even where they are no octal number behind their leading zero.
  | some last => (last ≠ [] && last.all Char.isDigit) || (number? last).isSome

/-- The address that at most four numbers spell: each but the last is a byte, and the last fills the
bytes that remain. -/
def ofNumbers? (numbers : List Nat) : Option Ipv4 :=
  match numbers.getLast? with
  | none => none
  | some last =>
    -- The last number takes over the bytes that are not spelled.
    let bytes := numbers.dropLast
    if bytes.length ≤ 3 ∧ bytes.all (· ≤ 255) ∧ last < 256 ^ (4 - bytes.length) then
      some ⟨.ofNat (bytes.foldl (fun value byte => 256 * value + byte) 0 * 256 ^ (4 - bytes.length)
        + last)⟩
    else none

/-- The address that a domain spells. -/
def read? (domain : List Char) : Option Ipv4 := do
  ofNumbers? (← (parts domain).mapM number?)

/-- The four bytes of an address, the most significant one first. -/
def bytes (address : Ipv4) : List Nat :=
  let n := address.bits.toNat
  [n / 2 ^ 24, n / 2 ^ 16 % 256, n / 2 ^ 8 % 256, n % 256]

/-- The written form: four decimal bytes with dots between them. -/
def text (address : Ipv4) : List Char :=
  joinFields '.' (address.bytes.map (Nat.toDigits 10))

end Ipv4

end Locator
