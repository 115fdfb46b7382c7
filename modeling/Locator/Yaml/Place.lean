/-! A YAML text as characters that know where they stand. -/

namespace Locator

/-- A character of a YAML text and where it stands. -/
structure Place where
  /-- The character; every line end that is written with controls is a line feed here. -/
  char : Char
  /-- How many bytes of UTF-8 stand before it in the text. -/
  index : Nat
  /-- How many lines end before it. -/
  line : Nat
  /-- How many characters stand before it in its line. -/
  column : Nat
  deriving DecidableEq, Repr

namespace Place

/-- The mark that may open a line and means nothing there. -/
def byteOrderMark : Char := '\uFEFF'

/-- The characters that a YAML text may hold: no controls but tab and line ends. -/
def isAllowed (c : Char) : Bool :=
  let n := c.toNat
  c = '\t' || c = '\n' || c = '\r' || n = 0x85 || (0x20 ≤ n && n ≤ 0x7E) ||
    (0xA0 ≤ n && n ≤ 0xFFFD) || 0x10000 ≤ n

/-- The characters of a text from a position on. A carriage return, one with a line feed, and a next
line character are line feeds; the two separators of lines and paragraphs end a line as they are. -/
def listFrom (index line column : Nat) : List Char → List Place
  | [] => []
  | '\r' :: '\n' :: rest => ⟨'\n', index, line, column⟩ :: listFrom (index + 2) (line + 1) 0 rest
  | c :: rest =>
    if c = '\n' ∨ c = '\r' ∨ c = '\u0085' then
      ⟨'\n', index, line, column⟩ :: listFrom (index + c.utf8Size) (line + 1) 0 rest
    else if c = '\u2028' ∨ c = '\u2029' then
      ⟨c, index, line, column⟩ :: listFrom (index + c.utf8Size) (line + 1) 0 rest
    else ⟨c, index, line, column⟩ :: listFrom (index + c.utf8Size) line (column + 1) rest

/-- The characters of a text, none when YAML does not allow one of them. -/
def ofText? (text : String) : Option (List Place) :=
  if text.toList.all isAllowed then some (listFrom 0 0 0 text.toList) else none

/-- A space or a tab. -/
def isBlank (place : Place) : Bool :=
  place.char = ' ' || place.char = '\t'

/-- A line end. -/
def isBreak (place : Place) : Bool :=
  place.char = '\n' || place.char = '\u2028' || place.char = '\u2029'

/-- A blank or a line end. -/
def isGap (place : Place) : Bool :=
  place.isBlank || place.isBreak

/-- A letter, a digit, a low line or a hyphen, all of ASCII. -/
def isWord (place : Place) : Bool :=
  place.char.isAlphanum || place.char = '_' || place.char = '-'

/-- Whether a text is over or goes on with a blank or a line end. -/
def opensGap (text : List Place) : Bool :=
  text.head?.all isGap

/-- Whether a text is over or goes on with a line end. -/
def opensBreak (text : List Place) : Bool :=
  text.head?.all isBreak

/-- The character of a document marker that a text opens with: three hyphens or three full stops at
the start of a line, with a gap after them. -/
def marker? : List Place → Option Char
  | first :: second :: third :: rest =>
    if first.column = 0 ∧ (first.char = '-' ∨ first.char = '.') ∧ second.char = first.char
        ∧ third.char = first.char ∧ opensGap rest then some first.char
    else none
  | _ => none

/-- A text without the blanks and the comment that it opens with. -/
def skipLine (text : List Place) : List Place :=
  let rest := text.dropWhile isBlank
  if rest.head?.any (·.char = '#') then rest.dropWhile (!·.isBreak) else rest

/-- A text after the line end that it opens with. -/
def skipBreak : List Place → List Place
  | [] => []
  | place :: rest => if place.isBreak then rest else place :: rest

end Place

end Locator
