import Locator.Document.Scalar
import Locator.Yaml.Node.Reading

/-! YAML texts as documents, with every reference replaced by what it refers to. -/

namespace Locator

namespace YamlNode

/-- The number of a node's anchor. -/
def anchor? : YamlNode → Option Nat
  | scalar properties _ _ => properties.anchor
  | sequence properties _ => properties.anchor
  | mapping properties _ => properties.anchor
  | reference _ => none

mutual

/-- The nodes with an anchor inside a node and that node itself, by their numbers and in the order
of the text. -/
def anchored (node : YamlNode) : List (Nat × YamlNode) :=
  (node.anchor?.map fun number => (number, node)).toList ++
    match node with
    | sequence _ items => anchoredItems items
    | mapping _ entries => anchoredEntries entries
    | _ => []

/-- The nodes with an anchor among items and inside them. -/
def anchoredItems : List YamlNode → List (Nat × YamlNode)
  | [] => []
  | item :: rest => anchored item ++ anchoredItems rest

/-- The nodes with an anchor among entries and inside them. -/
def anchoredEntries : List (YamlNode × YamlNode) → List (Nat × YamlNode)
  | [] => []
  | (key, value) :: rest => anchored key ++ anchored value ++ anchoredEntries rest

end

mutual

/-- How much a node counts against repetition: one for a scalar or a reference, and two for a
collection besides what it holds. -/
def weight : YamlNode → Nat
  | scalar _ _ _ => 1
  | reference _ => 1
  | sequence _ items => 2 + weightOfItems items
  | mapping _ entries => 2 + weightOfEntries entries

/-- How much items count. -/
def weightOfItems : List YamlNode → Nat
  | [] => 0
  | item :: rest => weight item + weightOfItems rest

/-- How much entries count. -/
def weightOfEntries : List (YamlNode × YamlNode) → Nat
  | [] => 0
  | (key, value) :: rest => weight key + weight value + weightOfEntries rest

end

/-- The tags of a document's own start with an exclamation mark. -/
def isOwnTag (tag : List Char) : Bool :=
  tag.head? = some '!'

/-- A scalar as a document. A tag of a known type decides what it holds, a tag of the document's own
is kept, and any other tag makes it a text. -/
def scalarDocument (tag : Option (List Char)) (text : List Char) (plain : Bool) : Document :=
  let content := String.ofList text
  -- An empty scalar leaves a trace in the text only if it has quotes or an indicator.
  let written := if plain && text.isEmpty then none else some content
  let untagged := Document.scalar written (if plain then .ofPlain text else .text content)
  match tag with
  | none => untagged
  | some tag =>
    -- A known type wins over everything else, also for a quoted text.
    match Scalar.Announced.ofTag? tag with
    | some announced => .scalar written (announced.read text)
    | none => if isOwnTag tag then .tagged untagged else .scalar written (.text content)

/-- A collection under an optional tag. -/
def collectionDocument (tag : Option (List Char)) (collection : Document) : Document :=
  if tag.any isOwnTag then .tagged collection else collection

/-- The label that error texts use for the value under a key. -/
def label? : YamlNode → Option String
  | scalar _ text _ => some (.ofList text)
  | _ => none

/-- How many more references may be followed; none after a failure, when nothing more is read. -/
abbrev Budget := Option Nat

/-- Items as documents, up to the first failure. -/
def itemDocuments (expand : YamlNode → Budget → Document × Budget) :
    List YamlNode → Budget → List Document × Budget
  | [], budget => ([], budget)
  | item :: rest, budget =>
    match expand item budget with
    | (document, none) => ([document], none)
    | (document, left) =>
      let (documents, past) := itemDocuments expand rest left
      (document :: documents, past)

/-- Entries as documents, up to the first failure. -/
def entryDocuments (expand : YamlNode → Budget → Document × Budget) :
    List (YamlNode × YamlNode) → Budget → List (Option String × Document × Document) × Budget
  | [], budget => ([], budget)
  | (key, value) :: rest, budget =>
    match expand key budget with
    | (keyDocument, none) => ([(label? key, keyDocument, .absent)], none)
    | (keyDocument, left) =>
      match expand value left with
      | (document, none) => ([(label? key, keyDocument, document)], none)
      | (document, left) =>
        let (documents, past) := entryDocuments expand rest left
        ((label? key, keyDocument, document) :: documents, past)

/-- A node and what is left of a budget after its reference, if it is one, has been followed. -/
def follow (anchors : List (Nat × YamlNode)) (node : YamlNode) (budget : Budget) :
    YamlNode × Budget :=
  match node with
  | reference number =>
    ((anchors.lookup number).getD node,
      budget.bind fun left => if left = 0 then none else some (left - 1))
  | _ => (node, budget)

/-- A node as a document in which collections go no deeper than the given depth. -/
def expand (anchors : List (Nat × YamlNode)) (depth : Nat) (node : YamlNode) (budget : Budget) :
    Document × Budget :=
  match follow anchors node budget, depth with
  -- A budget that has run out stops everything that follows.
  | (_, none), _ => (.fault .tooManyAliases, none)
  | (scalar properties text plain, left), _ => (scalarDocument properties.tag text plain, left)
  -- A reference to a reference cannot be written, so only an unknown one is left here.
  | (reference _, left), _ => (.absent, left)
  -- A node that holds itself ends here too, because every turn goes one deeper.
  | _, 0 => (.fault .tooDeep, none)
  | (sequence properties items, left), depth + 1 =>
    let (documents, past) := itemDocuments (expand anchors depth) items left
    (collectionDocument properties.tag (.sequence documents), past)
  | (mapping properties entries, left), depth + 1 =>
    let (documents, past) := entryDocuments (expand anchors depth) entries left
    (collectionDocument properties.tag (.mapping documents), past)

end YamlNode

namespace Document

/-- How many collections may stand inside one another in YAML. -/
def yamlDepth : Nat := 128

/-- How many references may be followed for each scalar, reference, start and end of a collection.
-/
def yamlRepetition : Nat := 100

/-- The document with the given root. Of nodes whose anchors share a number the last one counts. -/
def ofYamlNode (root : YamlNode) : Document :=
  (root.expand root.anchored.reverse yamlDepth (some (yamlRepetition * root.weight))).1

/-- The document that a YAML text holds. -/
def ofYaml (text : String) : Document :=
  match YamlNode.ofText? text with
  | none => fault .malformed
  | some none => absent
  | some (some root) => ofYamlNode root

end Document

end Locator
