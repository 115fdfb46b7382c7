import Locator.Yaml.Layout
import Locator.Yaml.Property
import Locator.Yaml.Scalar.Block
import Locator.Yaml.Scalar.Plain
import Locator.Yaml.Scalar.Quoted

/-! The tokens of a whole YAML text. -/

namespace Locator

namespace YamlLayout

/-- Skips blanks, comments and line ends in front of a token, and says whether a key may start after
them. In a block a line end allows one, and where one may start tabs are not skipped. -/
def skipGap (inFlow inComment keyAllowed : Bool) : List Place → Bool × List Place
  | [] => (keyAllowed, [])
  | place :: rest =>
    -- A comment ends with its line.
    if place.isBreak then skipGap inFlow false (keyAllowed || !inFlow) rest
    else if inComment then skipGap inFlow true keyAllowed rest
    else if place.char = '#' then skipGap inFlow true keyAllowed rest
    else if place.char = ' ' then skipGap inFlow false keyAllowed rest
    else if place.char = '\t' && (inFlow || !keyAllowed) then skipGap inFlow false keyAllowed rest
    -- A byte order mark counts as a blank, but only at the start of a line.
    else if place.char = Place.byteOrderMark && place.column = 0 then
      skipGap inFlow false keyAllowed rest
    else (keyAllowed, place :: rest)

/-- Ends all blocks, as a directive and a document marker do. -/
def endDocument? (layout : YamlLayout) : Option YamlLayout :=
  (layout.closeFrom 0).dropKey?.map (·.allowKey false)

/-- Adds a block scalar, which may not stand inside a flow collection. A key may follow it. -/
def addBlockScalar? (layout : YamlLayout) (folded : Bool) (rest : List Place) :
    Option (YamlLayout × List Place) :=
  if layout.inFlow then none
  else do
    let dropped ← layout.dropKey?
    let (text, after) ← BlockScalar.read? folded layout.floor rest
    some ((dropped.allowKey true).push (.scalar text false), after)

/-- Adds a plain scalar. A key may follow it if a line ends in between. -/
def addPlainScalar? (layout : YamlLayout) (place : Place) (rest : List Place) :
    Option (YamlLayout × List Place) := do
  let noted ← layout.startNode? place
  let (text, broken, after) ← PlainScalar.read? layout.inFlow layout.floor .empty (place :: rest)
  some ((noted.allowKey broken).push (.scalar text true), after)

/-- Adds a tag. A gap has to follow it, or inside a flow collection a comma. -/
def addTag? (layout : YamlLayout) (place : Place) (rest : List Place) :
    Option (YamlLayout × List Place) := do
  let (token, after) ← YamlToken.readTag? (place :: rest)
  if Place.opensGap after || (layout.inFlow && after.head?.any (·.char = ',')) then
    (layout.addNode? place token).map (·, after)
  else none

/-- Adds the token that opens with an indicator. -/
def addIndicated? (layout : YamlLayout) (place : Place) (rest : List Place) :
    Option (YamlLayout × List Place) :=
  match place.char with
  -- Collections and their parts.
  | '[' => (layout.openFlow? place .openFlowSequence).map (·, rest)
  | '\x7b' => (layout.openFlow? place .openFlowMapping).map (·, rest)
  | ']' => (layout.closeFlow? .closeFlowSequence).map (·, rest)
  | '\x7d' => (layout.closeFlow? .closeFlowMapping).map (·, rest)
  | ',' => layout.dropKey?.map fun dropped => ((dropped.allowKey true).push .flowEntry, rest)
  | '-' => (layout.sequenceEntry? place).map (·, rest)
  | '?' => (layout.keyEntry? place).map (·, rest)
  | ':' => (layout.valueEntry? place).map (·, rest)
  -- Nodes and what belongs to them.
  | '*' => do
    let (name, after) ← YamlToken.readName? rest
    (layout.addReference? place name).map (·, after)
  | '&' => do
    let (name, after) ← YamlToken.readName? rest
    (layout.addAnchor? place name).map (·, after)
  | '!' => layout.addTag? place rest
  | '\'' => do
    let (text, after) ← QuotedScalar.readSingle? .empty rest
    (layout.addNode? place (.scalar text false)).map (·, after)
  | '"' => do
    let (text, after) ← QuotedScalar.readDouble? .empty rest
    (layout.addNode? place (.scalar text false)).map (·, after)
  | '|' => layout.addBlockScalar? false rest
  | '>' => layout.addBlockScalar? true rest
  | _ => none

/-- Adds the token that a text opens with. Blocks that stand deeper end before it. -/
def step? (layout : YamlLayout) (place : Place) (rest : List Place) :
    Option (YamlLayout × List Place) := do
  let fresh ← layout.dropStale? place
  let here := fresh.closeFrom (place.column + 1)
  -- Directives and markers count only at the first column, even inside a collection.
  if place.column = 0 ∧ place.char = '%' then
    let ended ← here.endDocument?
    let (token, after) ← YamlToken.readDirective? rest
    some (ended.push token, after)
  else
    match Place.marker? (place :: rest) with
    | some mark =>
      let ended ← here.endDocument?
      some (ended.push (if mark = '-' then .documentStart else .documentEnd), rest.drop 2)
    | none =>
      -- An indicator that cannot be one where it stands starts a plain scalar.
      if PlainScalar.starts here.inFlow place rest then here.addPlainScalar? place rest
      else here.addIndicated? place rest

/-- The tokens of a layout followed by a text. Every token takes up text, so the comparison of
lengths holds each time. -/
def run? (layout : YamlLayout) (text : List Place) : Option (List YamlToken) :=
  match skipGap layout.inFlow false layout.keyAllowed text with
  | (_, []) => (layout.closeFrom 0).dropKey?.map (·.tokens.reverse)
  | (keyAllowed, place :: rest) =>
    match (layout.allowKey keyAllowed).step? place rest with
    | none => none
    | some (next, after) => if after.length < text.length then next.run? after else none
termination_by text.length

end YamlLayout

/-- The tokens of a text; none when it is not YAML. -/
def YamlToken.ofText? (text : String) : Option (List YamlToken) :=
  (Place.ofText? text).bind (YamlLayout.empty.run? ·)

end Locator
