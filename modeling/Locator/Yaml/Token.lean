/-! The tokens of a YAML text. Indentation is told by tokens that open and close blocks. -/

namespace Locator

/-- A token of a YAML text. -/
inductive YamlToken where
  /-- The version that the text announces. -/
  | version (major minor : Nat)
  /-- What a tag handle stands for. -/
  | shorthand (handle meaning : List Char)
  /-- `---` -/
  | documentStart
  /-- `...` -/
  | documentEnd
  /-- A sequence by indentation opens. -/
  | openBlockSequence
  /-- A mapping by indentation opens. -/
  | openBlockMapping
  /-- The innermost collection by indentation closes. -/
  | closeBlock
  /-- `[` -/
  | openFlowSequence
  /-- `]` -/
  | closeFlowSequence
  /-- `{` -/
  | openFlowMapping
  /-- `}` -/
  | closeFlowMapping
  /-- The hyphen before an item. -/
  | blockEntry
  /-- The comma between items. -/
  | flowEntry
  /-- A key follows. -/
  | key
  /-- A value follows. -/
  | value
  /-- A number by which references name the node that follows. -/
  | anchor (number : Nat)
  /-- The node of the given number once more. -/
  | reference (number : Nat)
  /-- A tag by its handle and its suffix; without a handle the suffix is the whole tag. -/
  | tag (handle suffix : List Char)
  /-- A scalar, and whether it is written without quotes or an indicator. -/
  | scalar (text : List Char) (plain : Bool)
  deriving DecidableEq, Repr

end Locator
