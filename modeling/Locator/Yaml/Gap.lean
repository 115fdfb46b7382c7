import Locator.Yaml.Place

/-! The gap between two words of a scalar, and what it stands for. -/

namespace Locator

/-- The blanks and line ends since the last word of a scalar. -/
inductive Gap where
  /-- Blanks within a line. -/
  | blanks (text : List Char)
  /-- Line ends: the first one, none when it is escaped, and the others. -/
  | lines (first : Option Char) (others : List Char)
  deriving DecidableEq, Repr

namespace Gap

/-- No gap. -/
def empty : Gap := blanks []

/-- Whether there is nothing in a gap. -/
def isEmpty : Gap → Bool
  | blanks text => text.isEmpty
  | lines _ _ => false

/-- Whether a line ends in a gap. -/
def breaksLine : Gap → Bool
  | blanks _ => false
  | lines _ _ => true

/-- A gap with one more blank or line end. Around line ends blanks do not count. -/
def add (gap : Gap) (place : Place) : Gap :=
  match gap with
  | blanks text =>
    if place.isBreak then lines (some place.char) [] else blanks (text ++ [place.char])
  | lines first others => if place.isBreak then lines first (others ++ [place.char]) else gap

/-- The text that a gap stands for: its blanks, or a space for one line feed and the other line ends
for more. A separator of lines or paragraphs is never dropped. -/
def text : Gap → List Char
  | blanks text => text
  | lines none others => others
  | lines (some first) others =>
    if first ≠ '\n' then first :: others
    else if others.isEmpty then [' '] else others

end Gap

end Locator
