import Locator.Text.Ascii
import Locator.Text.Utf8

/-! Percent-encoding: characters outside a kept class become one `%XX` per UTF-8 byte. -/

namespace Locator

namespace Percent

/-- One byte as a percent sign and two upper-case hexadecimal digits. -/
def triplet (byte : UInt8) : List Char :=
  ['%', Ascii.hexDigit (byte.toNat / 16), Ascii.hexDigit (byte.toNat % 16)]

/-- One byte as its character when that is unreserved, and else as its triplet. -/
def encodeByte (byte : UInt8) : List Char :=
  let c := Char.ofNat byte.toNat
  if Ascii.isUnreserved c then [c] else triplet byte

/-- Bytes with all but the unreserved ones percent-encoded. -/
def encodeBytes (bytes : List UInt8) : List Char :=
  bytes.flatMap encodeByte

/-- One character as it is when kept, and else as the triplets of its bytes. -/
def encodeChar (keep : Char → Bool) (c : Char) : List Char :=
  if keep c then [c] else (Utf8.encodeChar c).flatMap triplet

/-- A text with every character outside the kept class percent-encoded. -/
def encode (keep : Char → Bool) (text : List Char) : List Char :=
  text.flatMap (encodeChar keep)

/-- The bytes of a text in which every complete triplet stands for its byte. -/
def decode : List Char → List UInt8
  | [] => []
  | '%' :: high :: low :: rest =>
    match Ascii.hexValue? high, Ascii.hexValue? low with
    | some x, some y => .ofNat (16 * x + y) :: decode rest
    -- Without two digits the sign stands for itself, and a triplet may start right behind it.
    | _, _ => Utf8.encodeChar '%' ++ decode (high :: low :: rest)
  | c :: rest => Utf8.encodeChar c ++ decode rest

/-- The text that a percent-encoded text stands for, when its bytes are UTF-8. -/
def decodeText? (text : List Char) : Option (List Char) :=
  Utf8.decode? (decode text)

end Percent

end Locator
