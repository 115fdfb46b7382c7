import Locator.Text.Ascii
import Locator.Text.Fields

/-! IPv6 addresses: reading the forms with and without a gap, and the shortest written form. -/

namespace Locator

/-- An IPv6 address as eight pieces of 16 bits. -/
structure Ipv6 where
  /-- The pieces in order. -/
  pieces : List UInt16
  /-- There are eight of them. -/
  eight : pieces.length = 8
  deriving DecidableEq, Repr

namespace Ipv6

/-- The address of eight pieces. -/
def ofPieces? (pieces : List UInt16) : Option Ipv6 :=
  if eight : pieces.length = 8 then some ⟨pieces, eight⟩ else none

/-- A piece of one to four hexadecimal digits. -/
def piece? (text : List Char) : Option UInt16 :=
  if text ≠ [] ∧ text.length ≤ 4 ∧ text.all Ascii.isHexDigit then
    some (.ofNat (Ascii.hexadecimalValue text))
  else none

/-- A decimal byte without needless zeros. -/
def byte? (text : List Char) : Option Nat :=
  if text ≠ [] ∧ text.all Char.isDigit ∧ (text.length = 1 ∨ text.head? ≠ some '0')
      ∧ Ascii.decimalValue text ≤ 255 then
    some (Ascii.decimalValue text)
  else none

/-- The two pieces that four dotted bytes spell. -/
def dotted? (text : List Char) : Option (List UInt16) := do
  match ← (fields '.' text).mapM byte? with
  | [a, b, c, d] => some [.ofNat (256 * a + b), .ofNat (256 * c + d)]
  | _ => none

/-- The pieces that colon-separated fields spell; the last field may be four dotted bytes when they
end the address. -/
def fieldPieces? (ends : Bool) : List (List Char) → Option (List UInt16)
  | [] => some []
  | [last] => if ends && last.contains '.' then dotted? last else (piece? last).map ([·])
  | field :: rest => do return (← piece? field) :: (← fieldPieces? ends rest)

/-- The pieces on one side of a gap, or of an address without one; no text spells none. -/
def sidePieces? (ends : Bool) (text : List Char) : Option (List UInt16) :=
  if text = [] then some [] else fieldPieces? ends (fields ':' text)

/-- The text before the first double colon and the text after it. -/
def splitGap : List Char → Option (List Char × List Char)
  | ':' :: ':' :: rest => some ([], rest)
  | c :: rest => (splitGap rest).map fun (before, after) => (c :: before, after)
  | [] => none

/-- The address that a text spells; a gap stands for one or more zero pieces. -/
def read? (text : List Char) : Option Ipv6 :=
  match splitGap text with
  | none => do ofPieces? (← sidePieces? true text)
  | some (before, after) => do
    let left ← sidePieces? false before
    let right ← sidePieces? true after
    -- At least one piece is left for the gap.
    if left.length + right.length ≤ 7 then
      ofPieces? (left ++ List.replicate (8 - left.length - right.length) 0 ++ right)
    else none

/-- The number of zero pieces from a position on. -/
def zerosFrom (pieces : List UInt16) (position : Nat) : Nat :=
  ((pieces.drop position).takeWhile (· = 0)).length

/-- The first of the longest runs of at least two zero pieces, as its position and length. -/
def longestZeros? (pieces : List UInt16) : Option (Nat × Nat) :=
  (List.range pieces.length).foldl (fun best position =>
    let run := zerosFrom pieces position
    -- Only a longer run takes the place of an earlier one.
    if 2 ≤ run ∧ (best.map (·.2)).getD 0 < run then some (position, run) else best) none

/-- A piece in hexadecimal digits without needless zeros. -/
def pieceText (piece : UInt16) : List Char :=
  Nat.toDigits 16 piece.toNat

/-- Pieces with colons between them. -/
def piecesText (pieces : List UInt16) : List Char :=
  joinFields ':' (pieces.map pieceText)

/-- The written form, with a gap in place of the longest run of zero pieces. -/
def text (address : Ipv6) : List Char :=
  match longestZeros? address.pieces with
  | none => piecesText address.pieces
  | some (position, run) =>
    piecesText (address.pieces.take position) ++ ':' :: ':'
      :: piecesText (address.pieces.drop (position + run))

end Ipv6

end Locator
