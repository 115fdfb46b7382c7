import Locator.Url.Host.Label.Allowed
import Locator.Url.Host.Label.Meaning.Letters
import Locator.Url.Host.Label.Meaning.Texts

/-! What the characters of a domain mean: themselves, other characters that they are a form of, or
nothing at all. A domain is read by what its characters mean, so that it can be typed in capitals or
in wide forms. -/

namespace Locator

namespace Label

/-- The characters that mean nothing and fall away: hyphens and spaces without a width, and signs
that choose between forms. -/
def droppedRanges : List (Nat × Nat) := [
    (0xAD, 0xAD), (0x34F, 0x34F), (0x115F, 0x1160), (0x17B4, 0x17B5), (0x180B, 0x180F),
    (0x200B, 0x200B), (0x2060, 0x2064), (0x206A, 0x206F), (0x3164, 0x3164), (0xFE00, 0xFE0F),
    (0xFEFF, 0xFEFF), (0xFFA0, 0xFFA0), (0x1BCA0, 0x1BCA3), (0x1D173, 0x1D17A), (0xE0100, 0xE01EF)]

/-- The character that one in a run stands for, when the run is as long as the one it stands for. -/
def inRun? (table : List (Nat × Nat × Nat)) (code : Nat) : Option Nat :=
  table.findSome? fun (first, last, image) =>
    if first ≤ code ∧ code ≤ last then some (image + (code - first)) else none

/-- The character that one in a run stands for, when the whole run stands for it. -/
def inAlikeRun? (table : List (Nat × Nat × Nat)) (code : Nat) : Option Nat :=
  table.findSome? fun (first, last, image) =>
    if first ≤ code ∧ code ≤ last then some image else none

/-- The character that one in a list stands for. -/
def inList? (table : List (Nat × List Nat)) (code : Nat) : Option Nat :=
  table.findSome? fun (first, images) => if first ≤ code then images[code - first]? else none

/-- The single character that one stands for. -/
def letter? (c : Char) : Option Nat :=
  if inAlternating capitalRanges c then some (c.toNat + 1)
  else inRun? runs c.toNat
    <|> inAlikeRun? alikeRuns c.toNat
    <|> inList? (lowLetters ++ ideographs ++ highLetters) c.toNat

/-- The characters that one stands for, whether it stands for a single one or for several. -/
def image? (c : Char) : Option (List Nat) :=
  (letter? c).map ([·]) <|> (lowTexts ++ middleTexts ++ highTexts).lookup c.toNat

/-- Whether a character stands for itself. -/
def isKept (c : Char) : Bool :=
  if c.toNat < 0x80 then !c.isUpper else isAllowed c

/-- What a character means in a domain; no domain may have a character without a meaning. -/
def meaning? (c : Char) : Option (List Char) :=
  if isKept c then some [c]
  else if c.toNat < 0x80 then some [c.toLower]
  else if inRanges droppedRanges c then some []
  else (image? c).map (·.map Char.ofNat)

/-- What the characters of a text mean, one after the other. -/
def meanings? (text : List Char) : Option (List Char) :=
  (text.mapM meaning?).map List.flatten

end Label

end Locator
