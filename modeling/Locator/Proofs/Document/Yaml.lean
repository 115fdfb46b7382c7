import Locator.Document.Yaml
import Locator.Proofs.Document.Json
import Locator.Proofs.Document.Sound
import Locator.Proofs.Document.Unwritten
import Locator.Proofs.Yaml.Node

/-! A JSON value and the node that YAML reads for it are one document, but for the spelling of
numbers: no anchors are followed, and no limit is met. -/

namespace Locator

namespace YamlNode

open Document (unwritten unwrittenItems unwrittenEntries)

section Expanding

variable (anchors : List (Nat × YamlNode)) (depth left : Nat)

/-- A scalar without a tag is a document by itself. -/
theorem expand_scalar (text : List Char) (plain : Bool) :
    expand anchors depth (.scalar .none text plain) (some left) =
      (scalarDocument none text plain, some left) := by
  -- A scalar takes up no depth, so that the limit does not matter.
  cases depth <;> rfl

/-- A sequence without a tag is the sequence of its items. -/
theorem expand_sequence {items : List YamlNode} {documents : List Document}
    (expanded : itemDocuments (expand anchors depth) items (some left) = (documents, some left)) :
    expand anchors (depth + 1) (.sequence .none items) (some left) =
      (.sequence documents, some left) := by
  -- Without an anchor there is nothing to remember, and the budget is that of the items.
  have unfolded : expand anchors (depth + 1) (.sequence .none items) (some left) =
      (.sequence (itemDocuments (expand anchors depth) items (some left)).1,
        (itemDocuments (expand anchors depth) items (some left)).2) := rfl
  rw [unfolded, expanded]

/-- A mapping without a tag is the mapping of its entries. -/
theorem expand_mapping {entries : List (YamlNode × YamlNode)}
    {documents : List (Option String × Document × Document)}
    (expanded : entryDocuments (expand anchors depth) entries (some left) =
      (documents, some left)) :
    expand anchors (depth + 1) (.mapping .none entries) (some left) =
      (.mapping documents, some left) := by
  -- Without an anchor there is nothing to remember, and the budget is that of the entries.
  have unfolded : expand anchors (depth + 1) (.mapping .none entries) (some left) =
      (.mapping (entryDocuments (expand anchors depth) entries (some left)).1,
        (entryDocuments (expand anchors depth) entries (some left)).2) := rfl
  rw [unfolded, expanded]

end Expanding

mutual

/-- The node of a value that JSON can read to its end expands to its document, but for the spelling
of its numbers, and no reference is followed. -/
theorem exists_expand (anchors : List (Nat × YamlNode)) (json : Json) (depth : Nat)
    (sound : (Document.ofDraft depth json.draft).isSound) {node : YamlNode}
    (reads : json.ReadsAs node) (left : Nat) :
    ∃ document, expand anchors (depth + 1) node (some left) = (document, some left) ∧
      document.unwritten = (Document.ofDraft depth json.draft).unwritten := by
  -- The induction is on the value, one level of depth for each collection.
  cases json with
  | null =>
    -- A scalar is expanded as it stands, whatever is left.
    cases reads
    exact ⟨_, expand_scalar anchors _ left _ _, rfl⟩
  | bool flag =>
    cases reads
    refine ⟨_, expand_scalar anchors _ left _ _, ?_⟩
    cases flag <;> rfl
  | number n =>
    cases reads with
    | number alike =>
      -- However the number is spelled, both notations hold the same of it.
      refine ⟨_, expand_scalar anchors _ left _ _, ?_⟩
      rw [Json.draft, Document.ofDraft, Document.ofJsonNumber, alike]
      rfl
  | string text =>
    cases reads
    refine ⟨_, expand_scalar anchors _ left _ _, ?_⟩
    simp [scalarDocument, Json.draft, Document.ofDraft, Document.ofJsonString]
  | array items =>
    cases depth with
    -- No depth is left only where JSON has refused the collection already.
    | zero => cases sound
    | succ depth =>
      cases reads with
      | array parts =>
        rw [Json.draft, Document.ofDraft_array] at sound ⊢
        -- The items are expanded one level below.
        obtain ⟨documents, expanded, same⟩ :=
          exists_itemDocuments anchors items depth sound parts left
        exact ⟨_, expand_sequence anchors (depth + 1) left expanded,
          congrArg Document.sequence same⟩
  | object members =>
    cases depth with
    | zero => cases sound
    | succ depth =>
      cases reads with
      | object parts =>
        rw [Json.draft, Document.ofDraft_object] at sound ⊢
        -- The members are expanded one level below.
        obtain ⟨documents, expanded, same⟩ :=
          exists_entryDocuments anchors members depth sound parts left
        exact ⟨_, expand_mapping anchors (depth + 1) left expanded,
          congrArg Document.mapping same⟩

/-- The nodes of items that JSON can read to their ends expand to their documents. -/
theorem exists_itemDocuments (anchors : List (Nat × YamlNode)) (items : List Json) (depth : Nat)
    (sound : Document.areSound (Document.ofDrafts depth (Json.itemDrafts items)))
    {nodes : List YamlNode} (reads : Json.ItemsReadAs items nodes) (left : Nat) :
    ∃ documents,
      itemDocuments (expand anchors (depth + 1)) nodes (some left) = (documents, some left) ∧
      unwrittenItems documents =
        unwrittenItems (Document.ofDrafts depth (Json.itemDrafts items)) := by
  cases items with
  | nil =>
    cases reads
    exact ⟨[], rfl, rfl⟩
  | cons item items =>
    cases reads with
    | cons first others =>
      rw [Json.itemDrafts, Document.ofDrafts, Document.areSound, Bool.and_eq_true] at sound
      -- What is left of the budget is the same behind every item.
      obtain ⟨document, expanded, same⟩ := exists_expand anchors item depth sound.1 first left
      obtain ⟨documents, behind, alike⟩ :=
        exists_itemDocuments anchors items depth sound.2 others left
      refine ⟨document :: documents, ?_, ?_⟩
      · simp only [itemDocuments, expanded, behind]
      · rw [Json.itemDrafts, Document.ofDrafts, unwrittenItems, unwrittenItems, same, alike]

/-- The nodes of members that JSON can read to their ends expand to their documents. -/
theorem exists_entryDocuments (anchors : List (Nat × YamlNode)) (members : List (String × Json))
    (depth : Nat)
    (sound : Document.entriesAreSound (Document.ofMembers depth (Json.memberDrafts members)))
    {entries : List (YamlNode × YamlNode)} (reads : Json.MembersReadAs members entries)
    (left : Nat) :
    ∃ documents,
      entryDocuments (expand anchors (depth + 1)) entries (some left) = (documents, some left) ∧
      unwrittenEntries documents =
        unwrittenEntries (Document.ofMembers depth (Json.memberDrafts members)) := by
  cases members with
  | nil =>
    cases reads
    exact ⟨[], rfl, rfl⟩
  | cons member members =>
    cases reads with
    | @cons key value _ node entries first others =>
      rw [Json.memberDrafts, Document.ofMembers, Document.entriesAreSound, Bool.and_eq_true,
        Bool.and_eq_true] at sound
      -- The key is written alike in both notations.
      have keyDocument : expand anchors (depth + 1) (.scalar .none key.toList false) (some left) =
          (Document.ofJsonString (some key), some left) := by
        rw [expand_scalar]
        simp [scalarDocument, Document.ofJsonString]
      -- The value is expanded, and then the members behind it.
      obtain ⟨document, expanded, same⟩ := exists_expand anchors value depth sound.1.2 first left
      obtain ⟨documents, behind, alike⟩ :=
        exists_entryDocuments anchors members depth sound.2 others left
      refine ⟨(some key, .ofJsonString (some key), document) :: documents, ?_, ?_⟩
      · simp [entryDocuments, keyDocument, expanded, behind, label?]
      · rw [Json.memberDrafts, Document.ofMembers, unwrittenEntries, unwrittenEntries, same, alike]

end

end YamlNode

end Locator
