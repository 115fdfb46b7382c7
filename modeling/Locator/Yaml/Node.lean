import Locator.Yaml.Token

/-! The tree of nodes that the tokens of a YAML text form. -/

namespace Locator

/-- What stands before the content of a node. -/
structure NodeProperties where
  /-- The number of the node's anchor. -/
  anchor : Option Nat
  /-- The node's tag in full. -/
  tag : Option (List Char)
  deriving DecidableEq, Repr

/-- A node of a YAML text. -/
inductive YamlNode where
  /-- A scalar, and whether it is written without quotes or an indicator. -/
  | scalar (properties : NodeProperties) (text : List Char) (plain : Bool)
  /-- A sequence. -/
  | sequence (properties : NodeProperties) (items : List YamlNode)
  /-- A mapping. -/
  | mapping (properties : NodeProperties) (entries : List (YamlNode × YamlNode))
  /-- The node of the given number once more. -/
  | reference (number : Nat)
  deriving Repr

/-- What the tag handles of a text stand for. -/
abbrev Shorthands := List (List Char × List Char)

namespace NodeProperties

/-- No anchor and no tag. -/
def none : NodeProperties := ⟨.none, .none⟩

/-- The tag that a handle and a suffix stand for; an unknown handle stands for nothing. -/
def tag? (shorthands : Shorthands) (handle suffix : List Char) : Option (List Char) :=
  if handle.isEmpty then some suffix
  else (shorthands.lookup handle).map (· ++ suffix)

/-- An anchor, a tag or both in either order, and the tokens that follow. -/
def read? (shorthands : Shorthands) :
    (tokens : List YamlToken) →
      Option (NodeProperties × { rest : List YamlToken // rest.length ≤ tokens.length })
  | .anchor number :: .tag handle suffix :: rest =>
    (tag? shorthands handle suffix).map fun tag =>
      (⟨some number, some tag⟩, ⟨rest, by simp only [List.length_cons]; omega⟩)
  | .tag handle suffix :: .anchor number :: rest =>
    (tag? shorthands handle suffix).map fun tag =>
      (⟨some number, some tag⟩, ⟨rest, by simp only [List.length_cons]; omega⟩)
  -- A second anchor or a second tag is left among the tokens.
  | .anchor number :: rest =>
    some (⟨some number, .none⟩, ⟨rest, by simp⟩)
  | .tag handle suffix :: rest =>
    (tag? shorthands handle suffix).map fun tag => (⟨.none, some tag⟩, ⟨rest, by simp⟩)
  | tokens => some (none, ⟨tokens, Nat.le_refl _⟩)

end NodeProperties

end Locator
