import Locator.Yaml.Gap

/-! Plain scalars: text without quotes, which ends where an indicator, a comment or a shallower line
begins. -/

namespace Locator

namespace PlainScalar

/-- The brackets, braces and commas that have a meaning inside a flow collection. -/
def isFlowIndicator (c : Char) : Bool :=
  c = ',' || c = '[' || c = ']' || c = '\x7b' || c = '\x7d'

/-- The characters that have a meaning at the start of a node. -/
def isIndicator (c : Char) : Bool :=
  isFlowIndicator c || "-?:#&*!|>'\"%@`".toList.contains c

/-- Whether a plain scalar can start at a character with the given rest. A hyphen starts one unless
a gap follows, and so do a colon and a question mark outside flow collections. -/
def starts (flow : Bool) (place : Place) (rest : List Place) : Bool :=
  !(place.isGap || isIndicator place.char) ||
    ((place.char = '-' || (!flow && (place.char = '?' || place.char = ':'))) &&
      !Place.opensGap rest)

/-- Whether a colon is glued to something that has a meaning inside a flow collection. -/
def isGluedColon (place : Place) (rest : List Place) : Bool :=
  place.char = ':' && rest.head?.any fun next => isFlowIndicator next.char || next.char = '?'

/-- Whether a plain scalar ends before a character within a line: at a colon with a gap after it,
and inside a flow collection at what has a meaning there. -/
def endsAt (flow : Bool) (place : Place) (rest : List Place) : Bool :=
  (place.char = ':' && Place.opensGap rest) || (flow && isFlowIndicator place.char)

/-- Whether a plain scalar ends before a character that follows a gap: on a line that is not
indented enough, at a document marker or at a comment. -/
def endsAfterGap (flow : Bool) (indent : Nat) (place : Place) (rest : List Place) : Bool :=
  (!flow && decide (place.column < indent)) || (Place.marker? (place :: rest)).isSome
    || place.char = '#'

/-- The text of a plain scalar after a gap, whether a line ends between the scalar and what follows
it, and what follows it. A tab may not stand in for indentation, and inside a flow collection a
colon may not be glued to an indicator. -/
def read? (flow : Bool) (indent : Nat) (gap : Gap) :
    List Place → Option (List Char × Bool × List Place)
  | [] => some ([], gap.breaksLine, [])
  | place :: rest =>
    if place.isGap then
      -- Only after a line end can a tab stand in for indentation.
      if gap.breaksLine ∧ place.column < indent ∧ place.char = '\t' then none
      else read? flow indent (gap.add place) rest
    else if !gap.isEmpty && endsAfterGap flow indent place rest then
      some ([], gap.breaksLine, place :: rest)
    else if flow && isGluedColon place rest then none
    else if endsAt flow place rest then some ([], gap.breaksLine, place :: rest)
    -- The gap in front of a character becomes text together with it.
    else (read? flow indent .empty rest).map fun (more, broken, after) =>
      (gap.text ++ place.char :: more, broken, after)

end PlainScalar

end Locator
