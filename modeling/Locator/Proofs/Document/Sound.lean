import Locator.Proofs.Bindings

/-! Documents without faults: bindings are read only from those, because reading looks at every
node. -/

namespace Locator

/-- What succeeds after another step has that step's result to go on with. -/
theorem exists_of_bind_eq_ok {α β ε : Type} {first : Except ε α} {next : α → Except ε β}
    {result : β} (done : (first >>= next) = .ok result) :
    ∃ between, first = .ok between ∧ next between = .ok result := by
  -- An error ends the sequence.
  cases first with
  | error fault => cases done
  | ok between => exact ⟨between, rfl, done⟩

namespace Document

mutual

/-- Whether a document can be read to its end. -/
def isSound : Document → Bool
  | fault _ => false
  | sequence items => areSound items
  | mapping entries => entriesAreSound entries
  | tagged node => node.isSound
  | _ => true

/-- Whether all items can be read to their ends. -/
def areSound : List Document → Bool
  | [] => true
  | item :: rest => item.isSound && areSound rest

/-- Whether all keys and values can be read to their ends. -/
def entriesAreSound : List (Option String × Document × Document) → Bool
  | [] => true
  | (_, key, value) :: rest => key.isSound && value.isSound && entriesAreSound rest

end

mutual

/-- What is read through without regard to its shape has no faults. -/
theorem isSound_of_inspect {path : List Step} (node : Document)
    (read : inspect path node = .ok ()) : node.isSound := by
  -- A fault anywhere inside is met, since every node is looked at.
  cases node with
  | absent | scalar => rfl
  | tagged => cases read
  | fault => cases read
  | sequence items => exact areSound_of_inspectItems items read
  | mapping entries => exact entriesAreSound_of_inspectEntries entries read

/-- Items that are read through have no faults. -/
theorem areSound_of_inspectItems {path : List Step} {position : Nat} (items : List Document)
    (read : inspectItems path position items = .ok ()) : areSound items := by
  -- The first item is inspected, and then the others.
  cases items with
  | nil => rfl
  | cons item rest =>
    obtain ⟨_, first, others⟩ := exists_of_bind_eq_ok read
    rw [areSound, isSound_of_inspect item first, areSound_of_inspectItems rest others,
      Bool.and_self]

/-- Entries that are read through have no faults. -/
theorem entriesAreSound_of_inspectEntries {path : List Step}
    (entries : List (Option String × Document × Document))
    (read : inspectEntries path entries = .ok ()) : entriesAreSound entries := by
  -- Key and value of the first entry are inspected, and then the other entries.
  cases entries with
  | nil => rfl
  | cons entry rest =>
    obtain ⟨label, key, value⟩ := entry
    obtain ⟨_, first, behind⟩ := exists_of_bind_eq_ok read
    obtain ⟨_, second, others⟩ := exists_of_bind_eq_ok behind
    rw [entriesAreSound, isSound_of_inspect key first, isSound_of_inspect value second,
      entriesAreSound_of_inspectEntries rest others, Bool.and_self, Bool.and_self]

end

/-- The elements of a list are read from items without faults. -/
theorem areSound_of_elements {path : List Step} {position : Nat} {items : List Document}
    {found : List Element} (read : elements path position items = .ok found) : areSound items := by
  induction items generalizing position found with
  | nil => rfl
  | cons item rest ih =>
    -- An item is looked through before it is judged.
    obtain ⟨_, first, behind⟩ := exists_of_bind_eq_ok read
    split at behind
    · obtain ⟨_, others, -⟩ := exists_of_bind_eq_ok behind
      rw [areSound, isSound_of_inspect item first, ih others, Bool.and_self]
    · cases behind

/-- What has a text is a scalar. -/
theorem isSound_of_text {path : List Step} {expected : Expected} {node : Document} {found : String}
    (read : text path expected node = .ok found) : node.isSound := by
  -- Only a scalar is read as a text.
  unfold text at read
  split at read
  · rfl
  · exact absurd read mismatch_ne_ok

/-- The entries of a mapping of scalars have no faults. -/
theorem entriesAreSound_of_textEntries {path : List Step}
    {entries : List (Option String × Document × Document)} {found : List (String × String)}
    (read : textEntries path entries = .ok found) : entriesAreSound entries := by
  induction entries generalizing found with
  | nil => rfl
  | cons entry rest ih =>
    -- The key and the value are scalars, and so on for the entries behind them.
    obtain ⟨label, key, value⟩ := entry
    obtain ⟨_, first, behind⟩ := exists_of_bind_eq_ok read
    obtain ⟨_, second, behind⟩ := exists_of_bind_eq_ok behind
    obtain ⟨_, others, -⟩ := exists_of_bind_eq_ok behind
    rw [entriesAreSound, isSound_of_text first, isSound_of_text second, ih others, Bool.and_self,
      Bool.and_self]

/-- A template value is read from a node without faults. -/
theorem isSound_of_value {path : List Step} {node : Document} {found : Value}
    (read : value path node = .ok found) : node.isSound := by
  -- Sequences, mappings and scalars are read by readers of their own.
  unfold value at read
  split at read
  · obtain ⟨_, elements, -⟩ := exists_of_bind_eq_ok read
    exact areSound_of_elements elements
  · obtain ⟨_, entries, -⟩ := exists_of_bind_eq_ok read
    exact entriesAreSound_of_textEntries entries
  · obtain ⟨_, text, -⟩ := exists_of_bind_eq_ok read
    exact isSound_of_text text

/-- A name is read from a node without faults. -/
theorem isSound_of_name {path : List Step} {node : Document} {found : String}
    (read : name path node = .ok found) : node.isSound := by
  -- By the recursion of the reader, which looks through tags.
  fun_induction name path node with
  | case1 => rfl
  | case2 node ih => exact ih read
  | case3 => exact absurd read mismatch_ne_ok

/-- Bindings are read from entries without faults. -/
theorem entriesAreSound_of_bindingEntries {path : List Step}
    {entries : List (Option String × Document × Document)} {found : List (String × Value)}
    (read : bindingEntries path entries = .ok found) : entriesAreSound entries := by
  -- By induction on the entries; the name and the value of each are read in turn.
  induction entries generalizing found with
  | nil => rfl
  | cons entry rest ih =>
    obtain ⟨label, key, node⟩ := entry
    obtain ⟨_, first, behind⟩ := exists_of_bind_eq_ok read
    obtain ⟨_, second, behind⟩ := exists_of_bind_eq_ok behind
    obtain ⟨_, others, -⟩ := exists_of_bind_eq_ok behind
    rw [entriesAreSound, isSound_of_name first, isSound_of_value second, ih others, Bool.and_self,
      Bool.and_self]

/-- Bindings are read from a document without faults. -/
theorem isSound_of_bindings {document : Document} {found : Bindings}
    (read : document.bindings = .ok found) : document.isSound := by
  -- A tag of the document's own is looked behind, as often as there is one.
  fun_induction bindings document with
  | case1 | case2 => rfl
  | case3 entries =>
    obtain ⟨_, entries, -⟩ := exists_of_bind_eq_ok read
    exact entriesAreSound_of_bindingEntries entries
  | case4 node ih => exact ih read
  | case5 => exact absurd read mismatch_ne_ok

end Document

end Locator
