/-! Splitting a text at every occurrence of one character, and joining the pieces again. -/

namespace Locator

/-- The pieces of a text between the separators; there is always one more piece than separators. -/
def fields (separator : Char) : List Char → List (List Char)
  | [] => [[]]
  | c :: rest =>
    if c = separator then [] :: fields separator rest
    else match fields separator rest with
      | [] => [[c]]
      | field :: more => (c :: field) :: more

/-- The pieces in order with one separator between neighbours. -/
def joinFields (separator : Char) (pieces : List (List Char)) : List Char :=
  [separator].intercalate pieces

/-- The text before the first occurrence of a character and the text after it. -/
def splitFirst (separator : Char) : List Char → Option (List Char × List Char)
  | [] => none
  | c :: rest =>
    if c = separator then some ([], rest)
    else (splitFirst separator rest).map fun (before, after) => (c :: before, after)

/-- Splitting never yields the empty list of pieces. -/
theorem fields_ne_nil (separator : Char) (text : List Char) : fields separator text ≠ [] := by
  -- Each step either opens a new piece or extends the first one.
  cases text with
  | nil => simp [fields]
  | cons c rest =>
    rw [fields]
    split
    · simp
    · split <;> simp

/-- A text without the separator is a single piece. -/
theorem fields_of_not_mem {separator : Char} {text : List Char} (absent : separator ∉ text) :
    fields separator text = [text] := by
  -- No character opens a second piece.
  induction text with
  | nil => rfl
  | cons c rest ih =>
    have parts := mt List.mem_cons.mpr absent
    have here : ¬ c = separator := fun same => parts (.inl same.symm)
    rw [fields, if_neg here, ih fun there => parts (.inr there)]

/-- A piece followed by a separator is split off whole. -/
theorem fields_append_separator {separator : Char} {piece : List Char} (rest : List Char)
    (absent : separator ∉ piece) :
    fields separator (piece ++ separator :: rest) = piece :: fields separator rest := by
  -- The characters of the piece extend it until the separator closes it.
  induction piece with
  | nil => simp [fields]
  | cons c tail ih =>
    have parts := mt List.mem_cons.mpr absent
    have here : ¬ c = separator := fun same => parts (.inl same.symm)
    rw [List.cons_append, fields, if_neg here, ih fun there => parts (.inr there)]

/-- Pieces without the separator come back from their join. -/
theorem fields_joinFields {separator : Char} {pieces : List (List Char)} (some_piece : pieces ≠ [])
    (absent : ∀ piece ∈ pieces, separator ∉ piece) :
    fields separator (joinFields separator pieces) = pieces := by
  -- Each separator of the join closes one piece.
  induction pieces with
  | nil => exact absurd rfl some_piece
  | cons piece more ih =>
    cases more with
    | nil => simpa [joinFields] using fields_of_not_mem (absent piece (by simp))
    | cons next others =>
      have rest := ih (by simp) fun p member => absent p (List.mem_cons_of_mem _ member)
      have step : joinFields separator (piece :: next :: others) =
          piece ++ separator :: joinFields separator (next :: others) := by
        simp [joinFields]
      rw [step, fields_append_separator _ (absent piece (by simp)), rest]

/-- Joining the pieces of a text gives the text back. -/
theorem joinFields_fields (separator : Char) (text : List Char) :
    joinFields separator (fields separator text) = text := by
  -- A separator reappears between the piece it closed and the next one.
  induction text with
  | nil => rfl
  | cons c rest ih =>
    rw [fields]
    split
    case isTrue same =>
      cases pieces : fields separator rest with
      | nil => exact absurd pieces (fields_ne_nil separator rest)
      | cons field more =>
        rw [pieces] at ih
        rw [← ih, ← same]
        simp [joinFields]
    case isFalse =>
      cases pieces : fields separator rest with
      | nil => exact absurd pieces (fields_ne_nil separator rest)
      | cons field more =>
        rw [pieces] at ih
        rw [← ih]
        cases more <;> simp [joinFields]

end Locator
