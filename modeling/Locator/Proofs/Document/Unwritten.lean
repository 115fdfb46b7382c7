import Locator.Document.Value

/-! How the scalars of a document are written does not matter to the bindings that it holds; only
the names are read as they are written. -/

namespace Locator

namespace Document

mutual

/-- A document that does not tell how its scalars are written. -/
def unwritten : Document → Document
  | scalar _ held => scalar none held
  | sequence items => sequence (unwrittenItems items)
  | mapping entries => mapping (unwrittenEntries entries)
  | tagged node => tagged node.unwritten
  | node => node

/-- Items that do not tell how their scalars are written. -/
def unwrittenItems : List Document → List Document
  | [] => []
  | item :: rest => item.unwritten :: unwrittenItems rest

/-- Entries whose values do not tell how their scalars are written. -/
def unwrittenEntries :
    List (Option String × Document × Document) → List (Option String × Document × Document)
  | [] => []
  -- The keys of bindings are names.
  | (label, key, value) :: rest => (label, key, value.unwritten) :: unwrittenEntries rest

end

mutual

/-- Reading a node through meets the same faults however it is written. -/
theorem inspect_unwritten (path : List Step) (node : Document) :
    inspect path node.unwritten = inspect path node := by
  -- Whatever a scalar holds, no error tells how it is written.
  cases node with
  | absent | tagged | fault => rfl
  | scalar written held => cases held <;> rfl
  | sequence items => exact inspectItems_unwritten path 0 items
  | mapping entries => exact inspectEntries_unwritten path entries

/-- Reading items through meets the same faults however they are written. -/
theorem inspectItems_unwritten (path : List Step) (position : Nat) (items : List Document) :
    inspectItems path position (unwrittenItems items) = inspectItems path position items := by
  -- The spelling is dropped in the first item and in all others.
  cases items with
  | nil => rfl
  | cons item rest =>
    rw [unwrittenItems, inspectItems, inspectItems, inspect_unwritten, inspectItems_unwritten]

/-- Reading entries through meets the same faults however they are written. -/
theorem inspectEntries_unwritten (path : List Step)
    (entries : List (Option String × Document × Document)) :
    inspectEntries path (unwrittenEntries entries) = inspectEntries path entries := by
  -- The spelling is dropped in keys and values alike.
  cases entries with
  | nil => rfl
  | cons entry rest =>
    obtain ⟨label, key, value⟩ := entry
    rw [unwrittenEntries, inspectEntries, inspectEntries, inspect_unwritten,
      inspectEntries_unwritten]

end

/-- The text of a scalar is the same however it is written. -/
theorem plainText?_unwritten (node : Document) : node.unwritten.plainText? = node.plainText? := by
  -- What a scalar holds is not its spelling.
  cases node <;> rfl

/-- An element is the same however it is written. -/
theorem element?_unwritten (node : Document) : node.unwritten.element? = node.element? := by
  cases node with
  | absent | scalar | tagged | mapping | fault => rfl
  | sequence items =>
    -- Only two items can be a pair.
    match items with
    | [] | [_] | _ :: _ :: _ :: _ => rfl
    | [key, value] =>
      simp only [unwritten, unwrittenItems, element?, plainText?_unwritten]

/-- The elements of a list are the same however they are written. -/
theorem elements_unwritten (path : List Step) (position : Nat) (items : List Document) :
    elements path position (unwrittenItems items) = elements path position items := by
  -- By induction on the items, each at its own position.
  induction items generalizing position with
  | nil => rfl
  | cons item rest ih =>
    rw [unwrittenItems, elements, elements, inspect_unwritten, element?_unwritten, ih]

/-- The text of a node is the same however it is written. -/
theorem text_unwritten (path : List Step) (expected : Expected) (node : Document) :
    text path expected node.unwritten = text path expected node := by
  -- What a scalar holds is not its spelling.
  cases node with
  | scalar written held => cases held <;> rfl
  | _ => rfl

/-- The texts of a mapping are the same however they are written. -/
theorem textEntries_unwritten (path : List Step)
    (entries : List (Option String × Document × Document)) :
    textEntries path (unwrittenEntries entries) = textEntries path entries := by
  -- By induction on the entries; the label in front of a key is left as it is.
  induction entries with
  | nil => rfl
  | cons entry rest ih =>
    obtain ⟨label, key, value⟩ := entry
    rw [unwrittenEntries, textEntries, textEntries, text_unwritten, ih]

/-- A template value is the same however it is written. -/
theorem value_unwritten (path : List Step) (node : Document) :
    value path node.unwritten = value path node := by
  -- The kinds of documents are gone through; lists and objects hold others.
  cases node with
  | absent | tagged | fault => rfl
  | scalar written held => cases held <;> rfl
  | sequence items => rw [unwritten, value, value, elements_unwritten]
  | mapping entries => rw [unwritten, value, value, textEntries_unwritten]

/-- Entries of bindings are the same however their values are written. -/
theorem bindingEntries_unwritten (path : List Step)
    (entries : List (Option String × Document × Document)) :
    bindingEntries path (unwrittenEntries entries) = bindingEntries path entries := by
  -- By induction on the entries; the label in front of a key is left as it is.
  induction entries with
  | nil => rfl
  | cons entry rest ih =>
    obtain ⟨label, key, value⟩ := entry
    rw [unwrittenEntries, bindingEntries, bindingEntries, value_unwritten, ih]

/-- What is a mapping but for how its values are written holds the bindings of the mapping. -/
theorem bindings_of_unwritten {document : Document}
    {entries : List (Option String × Document × Document)}
    (alike : document.unwritten = (mapping entries).unwritten) :
    document.bindings = (mapping entries).bindings := by
  cases document with
  | mapping others =>
    -- The names are the same in both, and each value is read as if it were not written.
    rw [unwritten, unwritten, mapping.injEq] at alike
    rw [bindings, bindings, ← bindingEntries_unwritten [] others, alike, bindingEntries_unwritten]
  | _ => cases alike

end Document

end Locator
