import Locator.Text.Composition
import Locator.Url.Host.Label.Allowed
import Locator.Url.Host.Label.Direction
import Locator.Url.Host.Label.Joining
import Locator.Url.Host.Label.Meaning
import Locator.Url.Host.Punycode

/-! Labels of domains: what a domain says when its characters are taken by their meanings, how a
label with characters beyond ASCII is spelt within ASCII, and which texts may be such a label. -/

namespace Locator

namespace Label

/-- The mark in front of a label in Punycode. -/
def punycodeMark : List Char := "xn--".toList

/-- Whether a text lies within ASCII. -/
def isAscii (text : List Char) : Bool :=
  text.all (·.toNat < 0x80)

/-- What a text says: its characters replaced by what they mean, in composed form. -/
def fold? (text : List Char) : Option (List Char) :=
  -- Within ASCII there are only capitals to replace, and nothing to compose.
  if isAscii text then some (text.map Char.toLower)
  else (meanings? text).map Composition.compose

/-- The most characters that a label beyond ASCII may have. -/
def maxLength : Nat := 1000

/-- The most characters that the spelling of a label in Punycode may have behind its mark. -/
def maxSpelling : Nat := 2000

/-- Whether a text may be a label beyond ASCII: it is not too long, starts with no character that
joins what is before it, is in composed form, and has its joiners in place. -/
def isComposed (text : List Char) : Bool :=
  decide (text.length ≤ maxLength)
    && !text.head?.any Combining.isMark
    && decide (Composition.compose text = text)
    && Joining.areWellPlaced [] text

/-- Whether a text may be a label: its characters all stand for themselves, and beyond ASCII it is
as such a label has to be. -/
def isValid (text : List Char) : Bool :=
  text.all isKept && (isAscii text || isComposed text)

/-- The label that a folded text spells, in Punycode or as it is. -/
def read? (text : List Char) : Option (List Char) :=
  if punycodeMark.isPrefixOf text then
    let spelling := text.drop punycodeMark.length
    -- A hyphen at the end would leave nothing beyond ASCII to spell.
    if isAscii text && text.getLast? ≠ some '-' && spelling.length ≤ maxSpelling then
      (Punycode.decode? spelling).filter isValid
    else none
  else if isValid text then some text
  else none

/-- The spelling of a label within ASCII. -/
def write (label : List Char) : List Char :=
  if isAscii label then label else punycodeMark ++ Punycode.encode label

/-- Whether the labels of a domain agree on the direction of writing. -/
def areAligned (labels : List (List Char)) : Bool :=
  !labels.any (·.any fun c => (Direction.ofChar c).turns) || labels.all Direction.isKept

end Label

end Locator
