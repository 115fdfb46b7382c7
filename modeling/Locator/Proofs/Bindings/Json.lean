import Locator.Proofs.Bindings
import Locator.Proofs.Document.Json
import Mathlib.Data.List.Forall2

/-! Bindings that are written as a JSON object are read back, with the shape of every value. -/

namespace Locator

/-- The JSON values that a template value may be written as. -/
inductive Value.WrittenAs : Value → Json → Prop where
  /-- A text is a string. -/
  | scalar (text : String) : WrittenAs (.scalar text) (.string text)
  /-- Texts are an array of strings. -/
  | list (items : List String) : WrittenAs (.list items) (.array (items.map .string))
  /-- Pairs are an object of strings, which repeats a key where they do. -/
  | object (entries : List (String × String)) :
    WrittenAs (.pairs entries) (.object (entries.map fun entry => (entry.1, .string entry.2)))
  /-- Pairs are also an array of arrays of two strings, unless there are none. -/
  | arrays (entries : List (String × String)) (filled : entries ≠ []) :
    WrittenAs (.pairs entries)
      (.array (entries.map fun entry => .array [.string entry.1, .string entry.2]))

/-- Whether the members of an object have the names and the values of entries, in their order. -/
def Bindings.AreWrittenAs (entries : List (String × Value)) (members : List (String × Json)) :
    Prop :=
  List.Forall₂ (fun entry member => entry.1 = member.1 ∧ entry.2.WrittenAs member.2) entries members

namespace Document

/-- An array of strings is a list of scalars. -/
theorem elements_strings (depth : Nat) (path : List Step) (position : Nat) (items : List String) :
    elements path position (ofDrafts depth (Json.itemDrafts (items.map .string))) =
      .ok (items.map .scalar) := by
  induction items generalizing position with
  | nil => rfl
  | cons item items ih =>
    -- An item is looked through without regard to its shape and then found to be a scalar.
    have step := ih (position + 1)
    simp only [List.map_cons, Json.itemDrafts, Json.draft, ofDrafts, ofDraft, ofJsonString,
      elements, inspect, element?, scalarText?, Option.map_some] at step ⊢
    rw [step]
    rfl

/-- An array of arrays of two strings is a list of pairs. -/
theorem elements_arrays (depth : Nat) (path : List Step) (position : Nat)
    (entries : List (String × String)) :
    elements path position (ofDrafts (depth + 1) (Json.itemDrafts
      (entries.map fun entry => .array [.string entry.1, .string entry.2]))) =
      .ok (entries.map fun entry => .pair entry.1 entry.2) := by
  induction entries generalizing position with
  | nil => rfl
  | cons entry entries ih =>
    -- An item is looked through, down to its two scalars, and then found to be a pair.
    have step := ih (position + 1)
    rw [List.map_cons, Json.itemDrafts, ofDrafts, elements, step]
    rfl

/-- An object of strings is a mapping of scalars. -/
theorem textEntries_object (depth : Nat) (path : List Step) (entries : List (String × String)) :
    textEntries path (ofMembers depth (Json.memberDrafts
      (entries.map fun entry => (entry.1, .string entry.2)))) = .ok entries := by
  -- By induction on the entries, whose values are read one by one.
  induction entries with
  | nil => rfl
  | cons entry entries ih =>
    rw [List.map_cons, Json.memberDrafts, ofMembers, textEntries, ih]
    rfl

/-- Scalars are all scalars and no pairs. -/
theorem scalarsOf_map_scalar (items : List String) :
    scalarsOf (items.map .scalar) = items ∧ pairsOf (items.map .scalar) = [] := by
  -- Each item is kept by the first reading and left out by the second.
  constructor
  · simp [scalarsOf, List.filterMap_map]
  · simp [pairsOf, List.filterMap_map]

/-- Pairs are all pairs and no scalars. -/
theorem pairsOf_map_pair (entries : List (String × String)) :
    scalarsOf (entries.map fun entry => .pair entry.1 entry.2) = [] ∧
      pairsOf (entries.map fun entry => .pair entry.1 entry.2) = entries := by
  -- Each entry is left out by the first reading and kept by the second.
  constructor
  · simp [scalarsOf, List.filterMap_map]
  · simp [pairsOf, List.filterMap_map]

/-- A value is read back from whatever it is written as. -/
theorem value_of_writtenAs {written : Value} {json : Json} (shape : written.WrittenAs json)
    (depth : Nat) (path : List Step) :
    value path (ofDraft (depth + 2) json.draft) = .ok written := by
  cases shape with
  | scalar text => rfl
  | list items =>
    -- Without pairs a sequence is a list, also when it is empty.
    obtain ⟨scalars, pairs⟩ := scalarsOf_map_scalar items
    rw [Json.draft, ofDraft_array, value, elements_strings]
    simp only [bind, Except.bind, scalars, pairs]
    rfl
  | object entries =>
    rw [Json.draft, ofDraft_object, value, textEntries_object]
    rfl
  | arrays entries filled =>
    -- All elements are pairs, and there is one at least.
    obtain ⟨scalars, pairs⟩ := pairsOf_map_pair entries
    rw [Json.draft, ofDraft_array, value, elements_arrays]
    simp only [bind, Except.bind, scalars, pairs]
    rfl

/-- The members of an object are read back as the entries that they are written for. -/
theorem bindingEntries_of_areWrittenAs {entries : List (String × Value)}
    {members : List (String × Json)} (shapes : Bindings.AreWrittenAs entries members)
    (depth : Nat) :
    bindingEntries [] (ofMembers (depth + 2) (Json.memberDrafts members)) = .ok entries := by
  induction shapes with
  | nil => rfl
  | @cons entry member entries members same _ ih =>
    obtain ⟨name, written⟩ := entry
    obtain ⟨key, json⟩ := member
    -- A name is read as it is written, and its value by its shape.
    obtain ⟨rfl, shape⟩ := same
    rw [Json.memberDrafts, ofMembers, bindingEntries, value_of_writtenAs shape, ih]
    rfl

end Document

namespace Bindings

/-- Bindings that are laid out in any way as one JSON object are read, and each name has the value
of its last entry. -/
theorem readJson_of_layout {entries : List (String × Value)} {members : List (String × Json)}
    {text : String} (shapes : AreWrittenAs entries members)
    (layout : JsonToken.Layout (Json.object members).tokens text.toList) :
    ∃ bindings, readJson text = .ok bindings ∧
      ∀ name, bindings.get? name = entries.reverse.lookup name := by
  refine ⟨ofList entries, ?_, get?_ofList entries⟩
  -- The object is the outermost collection, so that two more fit into each of its values.
  have held : Document.bindings (Document.ofDraft Document.jsonDepth (Json.object members).draft) =
      .ok (ofList entries) := by
    have inner := Document.bindingEntries_of_areWrittenAs shapes 124
    rw [Json.draft, Document.jsonDepth, Document.ofDraft_object, Document.bindings, inner]
    rfl
  rw [readJson, ofJson, Document.readJson, JsonDraft.read_of_layout layout]
  simp only [bind, Except.bind, held]
  rfl

/-- Every shape, empty ones, a name and a key that repeat, and texts that look like numbers or need
escapes. -/
theorem readJson_of_layout_of_every_shape :
    ∃ bindings,
      readJson (.ofList (Json.object
        [("a", .string "1"), ("l", .array [.string "x", .string "null"]), ("e", .array []),
          ("p", .object [("k", .string "1"), ("k", .string "")]), ("o", .object []),
          ("q", .array [.array [.string "true", .string "2"]]),
          ("a", .string "\"\\\né")]).compact) = .ok bindings ∧
      ∀ name, bindings.get? name =
        [("a", Value.scalar "1"), ("l", .list ["x", "null"]), ("e", .list []),
          ("p", .pairs [("k", "1"), ("k", "")]), ("o", .pairs []), ("q", .pairs [("true", "2")]),
          ("a", .scalar "\"\\\né")].reverse.lookup name := by
  refine readJson_of_layout ?_ (by rw [String.toList_ofList]; exact Json.layout_compact _)
  -- One shape after another, in the order of the entries.
  exact .cons ⟨rfl, .scalar _⟩ (.cons ⟨rfl, .list ["x", "null"]⟩ (.cons ⟨rfl, .list []⟩
    (.cons ⟨rfl, .object [("k", "1"), ("k", "")]⟩ (.cons ⟨rfl, .object []⟩
      (.cons ⟨rfl, .arrays [("true", "2")] (List.cons_ne_nil _ _)⟩
        (.cons ⟨rfl, .scalar _⟩ .nil))))))

end Bindings

end Locator
