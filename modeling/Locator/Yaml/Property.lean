import Locator.Text.Ascii
import Locator.Yaml.Token
import Locator.Yaml.Place

/-! Anchors, references, tags and directives. -/

namespace Locator

namespace YamlToken

/-- The name after the indicator of an anchor or a reference. A gap or an indicator that may follow
a node has to follow it. -/
def readName? (text : List Place) : Option (List Char × List Place) :=
  let name := (text.takeWhile Place.isWord).map Place.char
  let rest := text.dropWhile Place.isWord
  if name ≠ [] ∧ rest.head?.all fun place => place.isGap || "?:,]\x7d%@`".toList.contains place.char
  then some (name, rest)
  else none

/-- The characters of a tag that stand for themselves. Flow indicators count only where nothing else
can be meant. -/
def isTagChar (flowIndicators : Bool) (place : Place) : Bool :=
  place.isWord || ";/?:@&=+$.!~*'()".toList.contains place.char ||
    (flowIndicators && ",[]".toList.contains place.char)

/-- How many continuation bytes follow a byte that starts a character in UTF-8. -/
def continuations? (byte : Nat) : Option Nat :=
  if byte < 0x80 then some 0
  else if 0xC0 ≤ byte ∧ byte < 0xE0 then some 1
  else if 0xE0 ≤ byte ∧ byte < 0xF0 then some 2
  else if 0xF0 ≤ byte ∧ byte < 0xF8 then some 3
  else none

/-- How many continuation bytes are due after an escaped byte. -/
def nextDue? (due byte : Nat) : Option Nat :=
  if due = 0 then continuations? byte
  else if 0x80 ≤ byte ∧ byte < 0xC0 then some (due - 1)
  else none

/-- The characters of a tag. An escaped byte is the character of its value; escaped bytes have to
form whole characters, of which `due` bytes are still missing. -/
def readTagText? (flowIndicators : Bool) (due : Nat) :
    List Place → Option (List Char × List Place)
  | [] => if due = 0 then some ([], []) else none
  | place :: rest =>
    if place.char = '%' then
      match rest with
      | high :: low :: after =>
        if Ascii.isHexDigit high.char ∧ Ascii.isHexDigit low.char then
          let byte := Ascii.hexadecimalValue [high.char, low.char]
          match nextDue? due byte with
          | none => none
          | some due =>
            (readTagText? flowIndicators due after).map fun (more, past) =>
              (Char.ofNat byte :: more, past)
        else none
      | _ => none
    -- Only an escaped byte may go on with a character that is not whole yet.
    else if due ≠ 0 then none
    else if isTagChar flowIndicators place then
      (readTagText? flowIndicators 0 rest).map fun (more, past) => (place.char :: more, past)
    else some ([], place :: rest)

/-- A handle: an exclamation mark, word characters, and where one follows, a second mark. -/
def readHandle? : List Place → Option (List Char × List Place)
  | [] => none
  | mark :: rest =>
    if mark.char ≠ '!' then none
    else
      let word := (rest.takeWhile Place.isWord).map Place.char
      match rest.dropWhile Place.isWord with
      | close :: after =>
        if close.char = '!' then some ('!' :: (word ++ ['!']), after)
        else some ('!' :: word, close :: after)
      | [] => some ('!' :: word, [])

/-- Whether a handle has both of its exclamation marks. -/
def isWholeHandle (handle : List Char) : Bool :=
  1 < handle.length && handle.getLast? = some '!'

/-- A tag without angle brackets: a suffix under a handle, or an exclamation mark with or without a
suffix. -/
def readShortTag? (text : List Place) : Option (YamlToken × List Place) := do
  let (handle, after) ← readHandle? text
  let (suffix, rest) ← readTagText? false 0 after
  if isWholeHandle handle then
    if suffix = [] then none else some (tag handle suffix, rest)
  else if handle = ['!'] ∧ suffix = [] then some (tag [] ['!'], rest)
  -- What looked like a handle without its second mark belongs to the suffix.
  else some (tag ['!'] (handle.drop 1 ++ suffix), rest)

/-- The tag that a text opens with, whole between angle brackets or without them. -/
def readTag? (text : List Place) : Option (YamlToken × List Place) :=
  match text with
  | mark :: bracket :: rest =>
    if bracket.char = '<' then
      match readTagText? true 0 rest with
      | some (suffix, close :: after) =>
        if suffix ≠ [] ∧ close.char = '>' then some (tag [] suffix, after) else none
      | _ => none
    else readShortTag? (mark :: bracket :: rest)
  | _ => readShortTag? text

/-- A number of one to nine digits. -/
def readVersionPart? (text : List Place) : Option (Nat × List Place) :=
  let digits := (text.takeWhile (·.char.isDigit)).map Place.char
  if 1 ≤ digits.length ∧ digits.length ≤ 9 then
    some (Ascii.decimalValue digits, text.dropWhile (·.char.isDigit))
  else none

/-- The version of a version directive: two numbers with a full stop between them. -/
def readVersion? (text : List Place) : Option (YamlToken × List Place) := do
  let (major, point) ← readVersionPart? (text.dropWhile Place.isBlank)
  if point.head?.any (·.char = '.') then
    let (minor, rest) ← readVersionPart? (point.drop 1)
    some (version major minor, rest)
  else none

/-- The handle of a tag directive and what it stands for. -/
def readMeaning? (text : List Place) : Option (YamlToken × List Place) := do
  let (handle, after) ← readHandle? (text.dropWhile Place.isBlank)
  let (meaning, rest) ← readTagText? true 0 (after.dropWhile Place.isBlank)
  if (isWholeHandle handle ∨ handle = ['!']) ∧ after.head?.any Place.isBlank ∧ meaning ≠ []
      ∧ Place.opensGap rest then
    some (shorthand handle meaning, rest)
  else none

/-- A directive after its percent sign, to the end of its line. -/
def readDirective? (text : List Place) : Option (YamlToken × List Place) := do
  let name := (text.takeWhile Place.isWord).map Place.char
  let after := text.dropWhile Place.isWord
  let (token, rest) ←
    if name = "YAML".toList ∧ Place.opensGap after then readVersion? after
    else if name = "TAG".toList ∧ Place.opensGap after then readMeaning? after
    else none
  let rest := Place.skipLine rest
  if Place.opensBreak rest then some (token, Place.skipBreak rest) else none

end YamlToken

end Locator
