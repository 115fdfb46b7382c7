import Locator.Text.Combining
import Locator.Text.Composition.Pairs

/-! The composed form of a text, in which a character stands for every pair that has one and marks
stand in the order of their classes. Two texts that read the same have the same composed form. -/

namespace Locator

namespace Composition

/-- The first syllable of the Korean alphabet; all of them follow in order. -/
def firstSyllable : Nat := 0xAC00

/-- The number of syllables. -/
def syllables : Nat := 11172

/-- The first leading consonant, vowel and position before the first trailing consonant. -/
def firstLead : Nat := 0x1100

/-- The first vowel. -/
def firstVowel : Nat := 0x1161

/-- The position before the first trailing consonant. -/
def beforeTrail : Nat := 0x11A7

/-- The two characters that a syllable stands for: one without its trailing consonant and that
consonant, or its leading consonant and its vowel. -/
def splitSyllable? (code : Nat) : Option (Nat × Nat) :=
  if firstSyllable ≤ code ∧ code < firstSyllable + syllables then
    let place := code - firstSyllable
    if place % 28 = 0 then some (firstLead + place / 588, firstVowel + place % 588 / 28)
    else some (code - place % 28, beforeTrail + place % 28)
  else none

/-- The syllable of a leading consonant and a vowel, or of one without a trailing consonant and that
consonant. -/
def joinSyllable? (first second : Nat) : Option Nat :=
  if firstLead ≤ first ∧ first < firstLead + 19 ∧
      firstVowel ≤ second ∧ second < firstVowel + 21 then
    some (firstSyllable + 588 * (first - firstLead) + 28 * (second - firstVowel))
  else if firstSyllable ≤ first ∧ first < firstSyllable + syllables ∧
      (first - firstSyllable) % 28 = 0 ∧ beforeTrail < second ∧ second < beforeTrail + 28 then
    some (first + (second - beforeTrail))
  else none

/-- The pair that a character stands for. -/
def split? (c : Char) : Option (Char × Char) :=
  let pair? := (splitSyllable? c.toNat).orElse fun _ =>
    (pairs.find? fun (whole, _) => whole = c.toNat).map (·.2)
  pair?.map fun (first, second) => (Char.ofNat first, Char.ofNat second)

/-- The character that stands for a pair. -/
def join? (first second : Char) : Option Char :=
  let whole? := (joinSyllable? first.toNat second.toNat).orElse fun _ =>
    (pairs.find? fun (_, pair) => pair = (first.toNat, second.toNat)).map (·.1)
  whole?.map Char.ofNat

/-- How often the first character of a pair may stand for a pair itself. -/
def maxDepth : Nat := 4

/-- A character with all pairs split; the second one of a pair never stands for another. -/
def splitFully (c : Char) : (depth : Nat) → List Char
  | 0 => [c]
  | depth + 1 =>
    match split? c with
    | none => [c]
    | some (first, second) => splitFully first depth ++ [second]

/-- Adds a character to a text whose last character comes first. A mark goes before the marks of
greater classes. -/
def insert (c : Char) : List Char → List Char
  | [] => [c]
  | last :: before =>
    if 0 < Combining.classOf c ∧ Combining.classOf c < Combining.classOf last then
      last :: insert c before
    else c :: last :: before

/-- A text with all pairs split and its marks in order. -/
def decompose (text : List Char) : List Char :=
  ((text.flatMap (splitFully · maxDepth)).foldl (fun before c => insert c before) []).reverse

/-- Joins what follows a letter to it where a pair has a character. Marks that stay behind hide
those of the same class from the letter, and everything that has no class. -/
def recompose (letter : Char) (passed : List Char) : List Char → List Char
  | [] => letter :: passed.reverse
  | c :: rest =>
    let hidden := passed.head?.any fun last => Combining.classOf c ≤ Combining.classOf last
    match if hidden then none else join? letter c with
    | some joined => recompose joined passed rest
    | none =>
      -- What has no class starts anew; a mark is passed over.
      if Combining.classOf c = 0 then letter :: passed.reverse ++ recompose c [] rest
      else recompose letter (c :: passed) rest

/-- The composed form of a text whose characters are all their own composed form. -/
def compose (text : List Char) : List Char :=
  match decompose text with
  | [] => []
  | letter :: rest => recompose letter [] rest

end Composition

end Locator
