import Locator.Json.Draft
import Locator.Proofs.Json.Layout

/-! What a JSON text means: the tokens of a value are read back as that value. -/

namespace Locator

namespace Json

mutual

/-- The tokens of a value. -/
def tokens : Json → List JsonToken
  | null => [.null]
  | bool flag => [.bool flag]
  | number n => [.number n]
  | string text => [.string (some text)]
  | array items => .openArray :: itemTokens items
  | object members => .openObject :: memberTokens members

/-- The tokens of array items up to the closing bracket. -/
def itemTokens : List Json → List JsonToken
  | [] => [.closeArray]
  | [item] => item.tokens ++ [.closeArray]
  | item :: rest => item.tokens ++ .comma :: itemTokens rest

/-- The tokens of object members up to the closing brace. -/
def memberTokens : List (String × Json) → List JsonToken
  | [] => [.closeObject]
  | [(key, value)] => .string (some key) :: .colon :: (value.tokens ++ [.closeObject])
  | (key, value) :: rest =>
    .string (some key) :: .colon :: (value.tokens ++ .comma :: memberTokens rest)

end

mutual

/-- A value as it is read. -/
def draft : Json → JsonDraft
  | null => .null
  | bool flag => .bool flag
  | number n => .number n
  | string text => .string (some text)
  | array items => .array (itemDrafts items)
  | object members => .object (memberDrafts members)

/-- Array items as they are read. -/
def itemDrafts : List Json → List JsonDraft
  | [] => []
  | item :: rest => item.draft :: itemDrafts rest

/-- Object members as they are read. -/
def memberDrafts : List (String × Json) → List (Option String × JsonDraft)
  | [] => []
  | (key, value) :: rest => (some key, value.draft) :: memberDrafts rest

end

end Json

namespace JsonDraft

/-- An item may stand where an array could end, as well as behind a comma. -/
theorem run_firstItem (item : Json) (rest : List JsonToken) (frames : List Frame) :
    run (item.tokens ++ rest) .firstItem frames =
      run (item.tokens ++ rest) .value (.items [] :: frames) := by
  -- Any value may be the first item, and no value starts with a closing bracket.
  cases item <;> simp [Json.tokens, run]

mutual

/-- The tokens of a value are read as that value. -/
theorem run_tokens (json : Json) (rest : List JsonToken) (frames : List Frame) :
    run (json.tokens ++ rest) .value frames = run rest (.next json.draft) frames := by
  -- The induction is on the value; the containers leave it to their items and members.
  cases json with
  | null | bool | number | string => simp [Json.tokens, Json.draft, run]
  | array items =>
    cases items with
    | nil => simp [Json.tokens, Json.itemTokens, Json.draft, Json.itemDrafts, run]
    | cons item items =>
      -- Only an array without items can end where the first item is due.
      have behind := run_itemTokens (item :: items) (List.cons_ne_nil _ _) [] rest frames
      rw [Json.tokens, List.cons_append, run, Json.draft]
      rw [List.reverse_nil, List.nil_append] at behind
      rw [← behind]
      cases items with
      | nil => simp only [Json.itemTokens, List.append_assoc, run_firstItem]
      | cons => simp only [Json.itemTokens, List.append_assoc, run_firstItem]
  | object members =>
    cases members with
    | nil => simp [Json.tokens, Json.memberTokens, Json.draft, Json.memberDrafts, run]
    | cons member members =>
      -- A key is due behind the brace just as behind a comma.
      have behind := run_memberTokens (member :: members) (List.cons_ne_nil _ _) [] rest frames
      rw [Json.tokens, List.cons_append, run, Json.draft]
      rw [List.reverse_nil, List.nil_append] at behind
      rw [← behind]
      obtain ⟨key, value⟩ := member
      cases members with
      | nil => simp only [Json.memberTokens, List.cons_append, run]
      | cons => simp only [Json.memberTokens, List.cons_append, run]

/-- The items of an array that is not empty are read behind the earlier ones. -/
theorem run_itemTokens (items : List Json) (filled : items ≠ []) (before : List JsonDraft)
    (rest : List JsonToken) (frames : List Frame) :
    run (Json.itemTokens items ++ rest) .value (.items before :: frames) =
      run rest (.next (.array (before.reverse ++ Json.itemDrafts items))) frames := by
  cases items with
  | nil => exact absurd rfl filled
  | cons item items =>
    cases items with
    | nil =>
      -- The bracket behind the last item closes the array.
      rw [Json.itemTokens, List.append_assoc, run_tokens]
      simp [run, Json.itemDrafts]
    | cons next items =>
      -- The comma makes another item due, with this one among the earlier.
      have more : next :: items ≠ [] := List.cons_ne_nil next items
      calc
        run (Json.itemTokens (item :: next :: items) ++ rest) .value (.items before :: frames) =
            run (.comma :: (Json.itemTokens (next :: items) ++ rest)) (.next item.draft)
              (.items before :: frames) := by
          rw [Json.itemTokens, List.append_assoc, run_tokens, List.cons_append]
          exact more
        _ = run (Json.itemTokens (next :: items) ++ rest) .value
              (.items (item.draft :: before) :: frames) := by rw [run]
        _ = run rest (.next (.array ((item.draft :: before).reverse ++
              Json.itemDrafts (next :: items)))) frames :=
          run_itemTokens (next :: items) more (item.draft :: before) rest frames
        _ = run rest (.next (.array (before.reverse ++ Json.itemDrafts (item :: next :: items))))
              frames := by simp [Json.itemDrafts]

/-- The members of an object that is not empty are read behind the earlier ones. -/
theorem run_memberTokens (members : List (String × Json)) (filled : members ≠ [])
    (before : List (Option String × JsonDraft)) (rest : List JsonToken) (frames : List Frame) :
    run (Json.memberTokens members ++ rest) (.key before) frames =
      run rest (.next (.object (before.reverse ++ Json.memberDrafts members))) frames := by
  cases members with
  | nil => exact absurd rfl filled
  | cons member members =>
    obtain ⟨key, value⟩ := member
    cases members with
    | nil =>
      -- The brace behind the last member closes the object.
      rw [Json.memberTokens, List.cons_append, run, List.cons_append, run, List.append_assoc,
        run_tokens]
      simp [run, Json.memberDrafts]
    | cons next members =>
      -- The comma makes another key due, with this member among the earlier.
      have more : next :: members ≠ [] := List.cons_ne_nil next members
      calc
        run (Json.memberTokens ((key, value) :: next :: members) ++ rest) (.key before) frames =
            run (Json.memberTokens (next :: members) ++ rest)
              (.key ((some key, value.draft) :: before)) frames := by
          rw [Json.memberTokens, List.cons_append, run, List.cons_append, run, List.append_assoc,
            run_tokens, List.cons_append, run]
          exact more
        _ = run rest (.next (.object (((some key, value.draft) :: before).reverse ++
              Json.memberDrafts (next :: members)))) frames :=
          run_memberTokens (next :: members) more ((some key, value.draft) :: before) rest frames
        _ = run rest (.next (.object (before.reverse ++
              Json.memberDrafts ((key, value) :: next :: members)))) frames := by
          simp [Json.memberDrafts]

end

/-- A text that a value is laid out as is read as that value, to its end. -/
theorem read_of_layout {json : Json} {text : String}
    (layout : JsonToken.Layout json.tokens text.toList) : read text = (json.draft, []) := by
  -- The tokens of the text are those of the value, and nothing is left behind them.
  have whole := run_tokens json [] []
  rw [List.append_nil] at whole
  rw [read, layout.ofText_eq, whole, run]

mutual

/-- What the tokens of a value are read as is JSON to its end. -/
theorem isWhole_draft (json : Json) : json.draft.isWhole := by
  -- The induction is on the value; only the containers have parts that could be cut.
  cases json with
  | null | bool | number | string => rfl
  | array items => exact areWhole_itemDrafts items
  | object members => exact membersAreWhole_memberDrafts members

/-- So are the items of an array. -/
theorem areWhole_itemDrafts (items : List Json) : areWhole (Json.itemDrafts items) := by
  -- The first item is whole, and so are the others.
  cases items with
  | nil => rfl
  | cons item items =>
    rw [Json.itemDrafts, areWhole, isWhole_draft item, areWhole_itemDrafts items]
    rfl

/-- So are the members of an object. -/
theorem membersAreWhole_memberDrafts (members : List (String × Json)) :
    membersAreWhole (Json.memberDrafts members) := by
  -- The first member is whole, and so are the others.
  cases members with
  | nil => rfl
  | cons member members =>
    obtain ⟨key, value⟩ := member
    rw [Json.memberDrafts, membersAreWhole, isWhole_draft value,
      membersAreWhole_memberDrafts members]
    rfl

end

end JsonDraft

end Locator
