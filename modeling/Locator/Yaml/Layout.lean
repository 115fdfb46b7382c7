import Locator.Yaml.Place
import Locator.Yaml.Token

/-! The layout of a YAML text so far: its tokens, the blocks that indentation has opened, and the
nodes that a colon may still turn into keys. -/

namespace Locator

/-- A node that is a key if a colon follows it. -/
structure PendingKey where
  /-- Whether the node cannot be anything but a key where it stands. -/
  required : Bool
  /-- How many tokens stand before it. -/
  position : Nat
  /-- Where it starts. -/
  place : Place
  deriving DecidableEq, Repr

/-- The layout of a text so far. -/
structure YamlLayout where
  /-- The tokens, the last one first. -/
  tokens : List YamlToken
  /-- The columns of the open blocks, innermost first. -/
  blocks : List Nat
  /-- The pending key of the innermost collection. -/
  key : Option PendingKey
  /-- The pending keys around the open flow collections, innermost first. -/
  outer : List (Option PendingKey)
  /-- Whether a key may start here. -/
  keyAllowed : Bool
  /-- The numbers that the names of anchors stand for, each name once. -/
  names : List (List Char × Nat)
  deriving DecidableEq, Repr

namespace PendingKey

/-- A key has to end on its line and within 1024 bytes. -/
def isStale (key : PendingKey) (place : Place) : Bool :=
  key.place.line < place.line || key.place.index + 1024 < place.index

/-- A pending key that has not become stale. A stale one must not be required. -/
def keep? (place : Place) : Option PendingKey → Option (Option PendingKey)
  | none => some none
  | some key =>
    if key.isStale place then if key.required then none else some none
    else some (some key)

end PendingKey

namespace YamlLayout

/-- The layout of an empty text. -/
def empty : YamlLayout := ⟨[], [], none, [], true, []⟩

/-- Whether the text is inside a flow collection. -/
def inFlow (layout : YamlLayout) : Bool :=
  !layout.outer.isEmpty

/-- The least column at which the innermost block goes on with the content of an entry. -/
def floor (layout : YamlLayout) : Nat :=
  match layout.blocks with
  | [] => 0
  | column :: _ => column + 1

/-- Adds a token. -/
def push (layout : YamlLayout) (token : YamlToken) : YamlLayout :=
  { layout with tokens := token :: layout.tokens }

/-- Adds tokens in front of those that follow a position. -/
def insertAt (layout : YamlLayout) (position : Nat) (added : List YamlToken) : YamlLayout :=
  let later := layout.tokens.length - position
  { layout with tokens := layout.tokens.take later ++ added.reverse ++ layout.tokens.drop later }

/-- Says whether a key may start next. -/
def allowKey (layout : YamlLayout) (allowed : Bool) : YamlLayout :=
  { layout with keyAllowed := allowed }

/-- Drops the pending keys that are stale at a place. -/
def dropStale? (layout : YamlLayout) (place : Place) : Option YamlLayout := do
  let key ← PendingKey.keep? place layout.key
  let outer ← layout.outer.mapM (PendingKey.keep? place)
  some { layout with key, outer }

/-- Gives up the pending key of the innermost collection, which must not be required. -/
def dropKey? (layout : YamlLayout) : Option YamlLayout :=
  if layout.key.any (·.required) then none else some { layout with key := none }

/-- Notes that a node that may be a key starts at a place. At the column of its block it has to be
one. -/
def startNode? (layout : YamlLayout) (place : Place) : Option YamlLayout :=
  if layout.keyAllowed then
    layout.dropKey?.map fun dropped =>
      { dropped with
        key := some ⟨!layout.inFlow && layout.blocks.head? = some place.column,
          layout.tokens.length, place⟩ }
  else some layout

/-- Closes the open blocks that stand at a column or deeper. Inside a flow collection indentation
does not matter. -/
def closeFrom (layout : YamlLayout) (column : Nat) : YamlLayout :=
  if layout.inFlow then layout
  else
    let closed := layout.blocks.takeWhile (column ≤ ·)
    { layout with
      blocks := layout.blocks.dropWhile (column ≤ ·)
      tokens := List.replicate closed.length .closeBlock ++ layout.tokens }

/-- Whether a collection at a column opens a block of its own. -/
def opensBlock (layout : YamlLayout) (column : Nat) : Bool :=
  !layout.inFlow && layout.blocks.head?.all (· < column)

/-- Opens a block at a column, unless the innermost one stands there already. -/
def openBlock (layout : YamlLayout) (column : Nat) (token : YamlToken) : YamlLayout :=
  if layout.opensBlock column then
    { layout.push token with blocks := column :: layout.blocks }
  else layout

/-- Opens a flow collection at a place. -/
def openFlow? (layout : YamlLayout) (place : Place) (token : YamlToken) : Option YamlLayout :=
  (layout.startNode? place).map fun noted =>
    { noted.push token with key := none, outer := noted.key :: noted.outer, keyAllowed := true }

/-- Closes a flow collection. -/
def closeFlow? (layout : YamlLayout) (token : YamlToken) : Option YamlLayout :=
  layout.dropKey?.map fun dropped =>
    match dropped.outer with
    -- A bracket that closes nothing is a token too; no node can be read from it.
    | [] => (dropped.allowKey false).push token
    | key :: outer => { dropped.push token with key, outer, keyAllowed := false }

/-- Starts an entry of a sequence. In a block it may stand only where a key may. -/
def sequenceEntry? (layout : YamlLayout) (place : Place) : Option YamlLayout :=
  if !layout.inFlow && !layout.keyAllowed then none
  else
    (layout.openBlock place.column .openBlockSequence).dropKey?.map fun dropped =>
      (dropped.allowKey true).push .blockEntry

/-- Starts a key that has an indicator. In a block it may stand only where a key may. -/
def keyEntry? (layout : YamlLayout) (place : Place) : Option YamlLayout :=
  if !layout.inFlow && !layout.keyAllowed then none
  else
    (layout.openBlock place.column .openBlockMapping).dropKey?.map fun dropped =>
      (dropped.allowKey !layout.inFlow).push .key

/-- Starts a value. The pending key becomes a key, and a mapping opens in front of it if none is
open at its column; without one the value belongs to a key with an indicator. -/
def valueEntry? (layout : YamlLayout) (place : Place) : Option YamlLayout :=
  match layout.key with
  | some key =>
    -- The tokens of the key are there already, so its mark goes in front of them.
    let opens := layout.opensBlock key.place.column
    let added := if opens then [.openBlockMapping, .key] else [.key]
    let blocks := if opens then key.place.column :: layout.blocks else layout.blocks
    some (({ layout with blocks, key := none, keyAllowed := false }.insertAt key.position
      added).push .value)
  | none =>
    -- A colon without a key stands where a key with an indicator may.
    if !layout.inFlow && !layout.keyAllowed then none
    else
      some (((layout.openBlock place.column .openBlockMapping).allowKey !layout.inFlow).push .value)

/-- Adds a token that is a node or belongs to one. No key starts right after it. -/
def addNode? (layout : YamlLayout) (place : Place) (token : YamlToken) : Option YamlLayout :=
  (layout.startNode? place).map fun noted => (noted.allowKey false).push token

/-- Adds an anchor. Its number is the count of the names so far, also when the name is one of them,
so that a name which is given again shares its number with the next new one. -/
def addAnchor? (layout : YamlLayout) (place : Place) (name : List Char) : Option YamlLayout :=
  let number := layout.names.length
  { layout with names := (name, number) :: layout.names.filter (·.1 ≠ name) }.addNode? place
    (.anchor number)

/-- Adds a reference to a name that an anchor has given. -/
def addReference? (layout : YamlLayout) (place : Place) (name : List Char) : Option YamlLayout :=
  (layout.names.lookup name).bind fun number => layout.addNode? place (.reference number)

end YamlLayout

end Locator
