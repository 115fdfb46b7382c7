import Locator.Text.Fields

/-! Splitting at the first separator, and joining, by what they do to the characters of a text. -/

namespace Locator

/-- A character of a class is none that is outside it. -/
theorem ne_of_class {c other : Char} {p : Char → Bool} (inside : p c) (outside : p other = false) :
    c ≠ other := by
  -- One and the same character is inside and outside of the class.
  rintro rfl
  exact absurd inside (by simp [outside])

variable {separator : Char}

/-- A text is split where the separator stands for the first time. -/
theorem splitFirst_eq_some_iff {text before after : List Char} :
    splitFirst separator text = some (before, after) ↔
      separator ∉ before ∧ text = before ++ separator :: after := by
  -- The part before the separator grows by the characters that are passed over.
  induction text generalizing before with
  | nil => simp [splitFirst]
  | cons c rest ih =>
    rw [splitFirst]
    by_cases here : c = separator
    · -- The text starts with the separator, and nothing stands before it.
      subst here
      rw [if_pos rfl]
      constructor
      · intro found
        cases found
        simp
      · rintro ⟨absent, same⟩
        -- A longer part before the separator would hold the separator itself.
        cases before with
        | nil => cases same; rfl
        | cons b more =>
          cases same
          exact absurd List.mem_cons_self absent
    · -- Any other character opens the part before the separator.
      rw [if_neg here, Option.map_eq_some_iff]
      constructor
      · rintro ⟨⟨passed, left⟩, inner, same⟩
        cases same
        obtain ⟨absent, whole⟩ := ih.mp inner
        exact ⟨by simp [absent, Ne.symm here], by rw [whole, List.cons_append]⟩
      · rintro ⟨absent, same⟩
        cases before with
        | nil => cases same; exact absurd rfl here
        | cons b more =>
          cases same
          have inner := ih.mpr ⟨fun member => absent (List.mem_cons_of_mem _ member), rfl⟩
          exact ⟨(more, after), inner, rfl⟩

/-- Only a text without the separator is not split. -/
theorem splitFirst_eq_none_iff {text : List Char} :
    splitFirst separator text = none ↔ separator ∉ text := by
  -- Every character is compared once.
  induction text with
  | nil => simp [splitFirst]
  | cons c rest ih =>
    rw [splitFirst]
    by_cases here : c = separator
    · simp [here]
    · simp [here, Ne.symm here, ih]

/-- A text is cut at a character exactly if it holds it. -/
theorem isSome_splitFirst_iff {text : List Char} :
    (splitFirst separator text).isSome ↔ separator ∈ text := by
  -- A text is not split only when the separator is missing.
  rw [Option.isSome_iff_ne_none, ne_eq, splitFirst_eq_none_iff, Decidable.not_not]

/-- A text with the separator is split behind a part without it. -/
theorem splitFirst_append {before : List Char} (after : List Char) (absent : separator ∉ before) :
    splitFirst separator (before ++ separator :: after) = some (before, after) :=
  splitFirst_eq_some_iff.mpr ⟨absent, rfl⟩

/-- A text is searched for a character behind a part without it. -/
theorem takeWhile_append_of_not_mem {c : Char} {front : List Char} (absent : c ∉ front)
    (text : List Char) : (front ++ text).takeWhile (· ≠ c) = front ++ text.takeWhile (· ≠ c) := by
  -- No character of the front part ends the run.
  refine List.takeWhile_append_of_pos fun d member => ?_
  simpa using ne_of_mem_of_not_mem member absent

/-- No piece holds the separator. -/
theorem not_mem_of_mem_fields {text piece : List Char} (member : piece ∈ fields separator text) :
    separator ∉ piece := by
  -- A piece only ever grows by characters that are no separator.
  induction text generalizing piece with
  | nil =>
    rw [fields, List.mem_singleton] at member
    simp [member]
  | cons c rest ih =>
    rw [fields] at member
    split at member
    · -- At the separator an empty piece is opened.
      rcases List.mem_cons.mp member with same | later
      · simp [same]
      · exact ih later
    · rename_i here
      split at member
      · rename_i pieces
        exact absurd pieces (fields_ne_nil separator rest)
      · rename_i field more pieces
        rw [pieces] at ih
        -- Elsewhere the first piece behind grows, and the others stay as they are.
        rcases List.mem_cons.mp member with same | later
        · have absent := ih List.mem_cons_self
          simp [same, absent, Ne.symm here]
        · exact ih (List.mem_cons_of_mem _ later)

/-- No pieces join to nothing. -/
@[simp]
theorem joinFields_nil : joinFields separator [] = [] := rfl

/-- One piece joins to itself. -/
@[simp]
theorem joinFields_singleton (piece : List Char) : joinFields separator [piece] = piece := by
  -- There is no neighbour to put a separator in front of.
  simp [joinFields]

/-- A separator stands between the first two pieces. -/
@[simp]
theorem joinFields_cons_cons (piece next : List Char) (more : List (List Char)) :
    joinFields separator (piece :: next :: more) =
      piece ++ separator :: joinFields separator (next :: more) := by
  -- The library puts the separators between the pieces as lists of their own.
  simp [joinFields]

/-- A join behind a separator is every piece behind a separator. -/
theorem cons_joinFields {pieces : List (List Char)} (nonempty : pieces ≠ []) :
    separator :: joinFields separator pieces = pieces.flatMap (separator :: ·) := by
  -- The separator in front of the join belongs to the first piece.
  induction pieces with
  | nil => exact absurd rfl nonempty
  | cons piece more ih =>
    cases more with
    | nil => simp
    | cons next others =>
      rw [joinFields_cons_cons, ih (by simp)]
      simp

/-- The separator stands once more between two lists of pieces. -/
theorem joinFields_append {pieces more : List (List Char)} (filled : pieces ≠ [])
    (followed : more ≠ []) :
    joinFields separator (pieces ++ more) =
      joinFields separator pieces ++ separator :: joinFields separator more := by
  -- The last piece of the first list is followed by the first one of the second.
  induction pieces with
  | nil => exact absurd rfl filled
  | cons piece rest ih =>
    cases rest with
    | nil =>
      obtain ⟨next, others, rfl⟩ := List.exists_cons_of_ne_nil followed
      simp
    | cons next others =>
      calc
        joinFields separator (piece :: next :: others ++ more) =
            piece ++ separator :: joinFields separator (next :: others ++ more) :=
          joinFields_cons_cons piece next (others ++ more)
        _ = piece ++ separator :: (joinFields separator (next :: others) ++
            separator :: joinFields separator more) := by rw [ih (by simp)]
        _ = joinFields separator (piece :: next :: others) ++
            separator :: joinFields separator more := by
          rw [joinFields_cons_cons, List.append_assoc, List.cons_append]

/-- Joins of pieces join to the join of all pieces. -/
theorem joinFields_flatten {blocks : List (List (List Char))} (filled : [] ∉ blocks) :
    joinFields separator (blocks.map (joinFields separator)) =
      joinFields separator blocks.flatten := by
  -- Every block has a piece, so the separator between two blocks stands between two pieces.
  induction blocks with
  | nil => rfl
  | cons block more ih =>
    have here : block ≠ [] := fun same => filled (same ▸ List.mem_cons_self)
    have there : [] ∉ more := fun member => filled (List.mem_cons_of_mem _ member)
    cases more with
    | nil => simp
    | cons next others =>
      have step := ih there
      have followed : (next :: others).flatten ≠ [] := by
        have filledNext : next ≠ [] := fun same => there (same ▸ List.mem_cons_self)
        simp [filledNext]
      rw [List.flatten_cons, joinFields_append here followed, ← step]
      simp only [List.map_cons, joinFields_cons_cons]

/-- A character of a join is the separator or stands in a piece. -/
theorem mem_joinFields {pieces : List (List Char)} {c : Char}
    (member : c ∈ joinFields separator pieces) : c = separator ∨ ∃ piece ∈ pieces, c ∈ piece := by
  -- Nothing but separators is put between the pieces.
  induction pieces with
  | nil => simp at member
  | cons piece more ih =>
    cases more with
    | nil => exact .inr ⟨piece, by simp, by simpa using member⟩
    | cons next others =>
      rw [joinFields_cons_cons, List.mem_append, List.mem_cons] at member
      rcases member with inside | same | behind
      · exact .inr ⟨piece, by simp, inside⟩
      · exact .inl same
      · rcases ih behind with same | ⟨found, later, inside⟩
        · exact .inl same
        · exact .inr ⟨found, List.mem_cons_of_mem _ later, inside⟩

/-- A join has a property of characters when the separator and all pieces have it. -/
theorem forall_mem_joinFields {allowed : Char → Prop} (between : allowed separator)
    {pieces : List (List Char)} (each : ∀ piece ∈ pieces, ∀ c ∈ piece, allowed c) :
    ∀ c ∈ joinFields separator pieces, allowed c := by
  -- A character of the join is a separator or comes out of a piece.
  intro c member
  rcases mem_joinFields member with same | ⟨piece, known, inside⟩
  · exact same ▸ between
  · exact each piece known c inside

/-- Every character of a piece stands in the join. -/
theorem mem_joinFields_of_mem {pieces : List (List Char)} {piece : List Char} {c : Char}
    (member : piece ∈ pieces) (inside : c ∈ piece) : c ∈ joinFields separator pieces := by
  -- The piece is passed on its way through the join.
  induction pieces with
  | nil => simp at member
  | cons first more ih =>
    cases more with
    | nil =>
      rw [List.mem_singleton] at member
      simpa [← member] using inside
    | cons next others =>
      rw [joinFields_cons_cons, List.mem_append, List.mem_cons]
      rcases List.mem_cons.mp member with same | later
      · exact .inl (same ▸ inside)
      · exact .inr (.inr (ih later))

/-- A piece with characters makes a join with characters. -/
theorem joinFields_ne_nil {pieces : List (List Char)} {piece : List Char} (member : piece ∈ pieces)
    (filled : piece ≠ []) : joinFields separator pieces ≠ [] := by
  -- The first character of the piece stands in the join.
  obtain ⟨c, rest, rfl⟩ := List.exists_cons_of_ne_nil filled
  have inside : c ∈ joinFields separator pieces := mem_joinFields_of_mem member List.mem_cons_self
  exact List.ne_nil_of_mem inside

/-- Only no piece at all and a single empty one join to nothing. -/
theorem joinFields_eq_nil_iff {pieces : List (List Char)} :
    joinFields separator pieces = [] ↔ pieces = [] ∨ pieces = [[]] := by
  -- A second piece brings a separator.
  match pieces with
  | [] => simp
  | [piece] => simp
  | piece :: next :: more => simp

/-- Items that are all written with characters join to nothing only if there are none. -/
theorem joinFields_map_eq_nil_iff {α : Type} {write : α → List Char}
    (filled : ∀ item, write item ≠ []) {items : List α} :
    joinFields separator (items.map write) = [] ↔ items = [] := by
  -- A join of pieces is empty without pieces, or with one that is empty. No piece here is.
  rw [joinFields_eq_nil_iff]
  match items with
  | [] => simp
  | [item] => simp [filled item]
  | item :: next :: more => simp

/-- Every character of a piece stands in the text that it was split from. -/
theorem mem_of_mem_fields {text piece : List Char} {c : Char}
    (member : piece ∈ fields separator text) (inside : c ∈ piece) : c ∈ text := by
  -- The pieces join to the text again.
  rw [← joinFields_fields separator text]
  exact mem_joinFields_of_mem member inside

/-- The first piece stands at the front of the text. -/
theorem isPrefix_of_fields {text first : List Char} {more : List (List Char)}
    (pieces : fields separator text = first :: more) : first <+: text := by
  -- The pieces join to the text again, and the first one comes first.
  have whole := joinFields_fields separator text
  rw [pieces] at whole
  cases more with
  | nil => exact ⟨[], by simpa using whole⟩
  | cons next others =>
    rw [joinFields_cons_cons] at whole
    exact ⟨_, whole⟩

/-- A separator cuts what stands before it from what follows, whatever both hold. -/
theorem fields_append_cons (text rest : List Char) :
    fields separator (text ++ separator :: rest) =
      fields separator text ++ fields separator rest := by
  -- A character in front extends the first piece on both sides alike.
  induction text with
  | nil => simp [fields]
  | cons c more ih =>
    rw [List.cons_append, fields, fields, ih]
    split
    · rfl
    · cases pieces : fields separator more with
      | nil => exact absurd pieces (fields_ne_nil separator more)
      | cons field others => rfl

/-- The pieces of a join are the pieces of what was joined. -/
theorem fields_joinFields_eq_flatMap {pieces : List (List Char)} (filled : pieces ≠ []) :
    fields separator (joinFields separator pieces) = pieces.flatMap (fields separator) := by
  -- Each separator of the join cuts, and so do those within the pieces.
  induction pieces with
  | nil => exact absurd rfl filled
  | cons piece more ih =>
    cases more with
    | nil => simp
    | cons next others =>
      rw [joinFields_cons_cons, fields_append_cons, ih (by simp)]
      rfl

/-- Pieces without the separator are not split any further. -/
theorem flatMap_fields_of_not_mem {pieces : List (List Char)}
    (absent : ∀ piece ∈ pieces, separator ∉ piece) :
    pieces.flatMap (fields separator) = pieces := by
  -- Each piece is the only one of itself, so that splitting the join gives the pieces back.
  by_cases none : pieces = []
  · rw [none]
    rfl
  · rw [← fields_joinFields_eq_flatMap none, fields_joinFields none absent]

/-- Pieces without the separator stay around the pieces of what is joined between them. -/
theorem fields_joinFields_around {before middle after : List (List Char)}
    (absent : ∀ piece ∈ before ++ after, separator ∉ piece) (filled : middle ≠ []) :
    fields separator (joinFields separator (before ++ middle ++ after)) =
      before ++ middle.flatMap (fields separator) ++ after := by
  have front : before.flatMap (fields separator) = before :=
    flatMap_fields_of_not_mem fun piece member => absent piece (List.mem_append_left after member)
  have back : after.flatMap (fields separator) = after :=
    flatMap_fields_of_not_mem fun piece member => absent piece (List.mem_append_right before member)
  -- Only the pieces between them can hold separators.
  calc
    fields separator (joinFields separator (before ++ middle ++ after)) =
        (before ++ middle ++ after).flatMap (fields separator) :=
      fields_joinFields_eq_flatMap (by simp [filled])
    _ = before.flatMap (fields separator) ++ middle.flatMap (fields separator) ++
        after.flatMap (fields separator) := by rw [List.flatMap_append, List.flatMap_append]
    _ = before ++ middle.flatMap (fields separator) ++ after := by rw [front, back]

/-- What a text starts with, up to its first separator, its first piece starts with. -/
theorem exists_mem_fields_of_isPrefix {front text : List Char} (starts : front <+: text)
    (absent : separator ∉ front) : ∃ piece ∈ fields separator text, front <+: piece := by
  obtain ⟨rest, rfl⟩ := starts
  cases split : splitFirst separator rest with
  | none =>
    -- Without a separator the text is one piece.
    have whole : separator ∉ front ++ rest := by
      simpa [absent] using splitFirst_eq_none_iff.mp split
    exact ⟨front ++ rest, by simp [fields_of_not_mem whole], List.prefix_append front rest⟩
  | some parts =>
    obtain ⟨before, after⟩ := parts
    obtain ⟨outside, rfl⟩ := splitFirst_eq_some_iff.mp split
    have whole : separator ∉ front ++ before := by simp [absent, outside]
    refine ⟨front ++ before, ?_, List.prefix_append front before⟩
    rw [← List.append_assoc, fields_append_separator after whole]
    exact List.mem_cons_self

/-- What follows the last piece of a join follows the join. -/
theorem joinFields_append_last (before : List (List Char)) (piece rest : List Char) :
    joinFields separator (before ++ [piece ++ rest]) =
      joinFields separator (before ++ [piece]) ++ rest := by
  -- What is in front of the last piece does not change.
  by_cases front : before = []
  · simp [front]
  · rw [joinFields_append front (by simp), joinFields_append front (by simp)]
    simp

/-- A join starts with nothing but the separator and what is in the pieces at the front. -/
theorem head?_joinFields_ne {before after : List (List Char)} {text : List Char} {c : Char}
    (other : c ≠ separator) (filled : before ≠ [])
    (absent : ∀ piece ∈ before, c ∉ piece) :
    (joinFields separator (before ++ [text] ++ after)).head? ≠ some c := by
  rw [List.append_assoc, joinFields_append filled (by simp)]
  -- The pieces at the front may all be empty, and then a separator comes first.
  cases front : joinFields separator before with
  | nil => simpa using other.symm
  | cons first rest =>
    rintro ⟨⟩
    have inside : c ∈ joinFields separator before := front ▸ List.mem_cons_self
    rcases mem_joinFields inside with same | ⟨piece, known, inner⟩
    · exact other same
    · exact absent piece known inner

/-- A join ends with nothing but the separator and what is in the pieces at the end. -/
theorem getLast?_joinFields_ne {before after : List (List Char)} {text : List Char} {c : Char}
    (other : c ≠ separator) (filled : after ≠ [])
    (absent : ∀ piece ∈ after, c ∉ piece) :
    (joinFields separator (before ++ [text] ++ after)).getLast? ≠ some c := by
  -- The last character is one of the last pieces, or the separator in front of them.
  rw [joinFields_append (by simp) filled, List.getLast?_append, List.getLast?_cons]
  cases back : (joinFields separator after).getLast? with
  | none => simpa using other.symm
  | some last =>
    rintro ⟨⟩
    rcases mem_joinFields (List.mem_of_getLast? back) with same | ⟨piece, known, inner⟩
    · exact other same
    · exact absent piece known inner

section Reading

variable {α β γ : Type}

/-- Items that are read back one by one are read back together. -/
theorem mapM_map_eq_some {write : β → α} {read : α → Option β} {items : List β}
    (each : ∀ item ∈ items, read (write item) = some item) :
    (items.map write).mapM read = some items := by
  -- One item after the other is written and read back.
  induction items with
  | nil => rfl
  | cons item more ih =>
    have here := each item List.mem_cons_self
    have rest := ih fun other member => each other (List.mem_cons_of_mem _ member)
    simp [List.mapM_cons, here, rest]

/-- Items that are read alike one by one are read alike together. -/
theorem mapM_map_congr {change : α → β} {read : β → Option γ} {other : α → Option γ}
    {items : List α} (same : ∀ item ∈ items, read (change item) = other item) :
    (items.map change).mapM read = items.mapM other := by
  -- The readers agree on the first item and then on those behind it.
  induction items with
  | nil => rfl
  | cons item more ih =>
    rw [List.forall_mem_cons] at same
    rw [List.map_cons, List.mapM_cons, List.mapM_cons, same.1, ih same.2]

/-- Items are all read as results of one kind exactly if the reader of that kind reads them. -/
theorem mapM_eq_some_map_iff {kind : β → γ} {read : α → Option γ} {only : α → Option β}
    (one : ∀ item result, read item = some (kind result) ↔ only item = some result)
    {items : List α} {results : List β} :
    items.mapM read = some (results.map kind) ↔ items.mapM only = some results := by
  -- The first item has the first result on both sides, and so on.
  induction items generalizing results with
  | nil => cases results <;> simp
  | cons item more ih =>
    simp only [List.mapM_cons, Option.bind_eq_bind, Option.bind_eq_some_iff, Option.pure_def,
      Option.some.injEq]
    cases results with
    -- An item has a result, and so there is a first one.
    | nil => simp
    | cons result others =>
      constructor
      · rintro ⟨first, here, rest, behind, same⟩
        obtain ⟨rfl, rfl⟩ := List.cons.inj same
        exact ⟨result, (one item result).mp here, others, ih.mp behind, rfl⟩
      · rintro ⟨first, here, rest, behind, same⟩
        obtain ⟨rfl, rfl⟩ := List.cons.inj same
        exact ⟨_, (one item first).mpr here, _, ih.mpr behind, rfl⟩

/-- Only no items are read as no results. -/
theorem eq_nil_of_mapM {read : α → Option β} {items : List α} (all : items.mapM read = some []) :
    items = [] := by
  -- A first item would have a first result.
  cases items with
  | nil => rfl
  | cons item more => simp [List.mapM_cons, Option.bind_eq_some_iff] at all

/-- What items are read as together, one of them is read as. -/
theorem exists_of_mem_mapM {read : α → Option β} {items : List α} {results : List β} {result : β}
    (all : items.mapM read = some results) (member : result ∈ results) :
    ∃ item ∈ items, read item = some result := by
  -- The results stand in the order of the items, one for each.
  induction items generalizing results with
  | nil =>
    cases all
    simp at member
  | cons item more ih =>
    simp only [List.mapM_cons, Option.bind_eq_bind, Option.bind_eq_some_iff, Option.pure_def,
      Option.some.injEq] at all
    obtain ⟨first, here, others, rest, rfl⟩ := all
    rcases List.mem_cons.mp member with same | later
    · exact ⟨item, List.mem_cons_self, same ▸ here⟩
    · obtain ⟨found, inside, read⟩ := ih rest later
      exact ⟨found, List.mem_cons_of_mem _ inside, read⟩

/-- Items that are read as themselves stay around what the items between them are read as. -/
theorem mapM_around_eq_some_iff {read : α → Option α} {before middle after results : List α}
    (each : ∀ item ∈ before ++ after, read item = some item) :
    (before ++ middle ++ after).mapM read = some results ↔
      ∃ inner, middle.mapM read = some inner ∧ results = before ++ inner ++ after := by
  have front : (before.map id).mapM read = some before :=
    mapM_map_eq_some fun item member => each item (List.mem_append_left after member)
  have back : (after.map id).mapM read = some after :=
    mapM_map_eq_some fun item member => each item (List.mem_append_right before member)
  rw [List.map_id] at front back
  rw [List.mapM_append, List.mapM_append, front, back]
  -- So the items between them decide whether all are read.
  cases inner : middle.mapM read <;> simp [eq_comm]

/-- A single item between items that are read as themselves is read on its own. -/
theorem exists_of_mapM_around {read : α → Option α} {before after results : List α} {item : α}
    (each : ∀ item ∈ before ++ after, read item = some item)
    (found : (before ++ [item] ++ after).mapM read = some results) :
    ∃ result, read item = some result ∧ results = before ++ [result] ++ after := by
  obtain ⟨inner, between, rfl⟩ := (mapM_around_eq_some_iff each).mp found
  -- What a single item is read as is a single result.
  obtain ⟨result, here, rfl⟩ : ∃ result, read item = some result ∧ [result] = inner := by
    simpa [List.mapM_cons, Option.bind_eq_some_iff] using between
  exact ⟨result, here, rfl⟩

/-- Items that a change keeps stay around the changed ones between them. -/
theorem map_around {change : α → α} {before after : List α}
    (each : ∀ item ∈ before ++ after, change item = item) (middle : List α) :
    (before ++ middle ++ after).map change = before ++ middle.map change ++ after := by
  have front : before.map change = before.map id :=
    List.map_congr_left fun item member => each item (List.mem_append_left after member)
  have back : after.map change = after.map id :=
    List.map_congr_left fun item member => each item (List.mem_append_right before member)
  -- The change goes through the three parts one by one.
  calc
    (before ++ middle ++ after).map change =
        before.map change ++ middle.map change ++ after.map change := by
      rw [List.map_append, List.map_append]
    _ = before ++ middle.map change ++ after := by rw [front, back, List.map_id, List.map_id]

/-- A join is read as the join of what its pieces are read as, when the reader takes the text on
each side of a separator on its own. -/
theorem read_joinFields {read : List Char → Option (List Char)}
    (apart : ∀ front back, read (front ++ separator :: back) =
      (read front).bind fun left => (read back).map fun right => left ++ separator :: right)
    {pieces : List (List Char)} (filled : pieces ≠ []) :
    read (joinFields separator pieces) = (pieces.mapM read).map (joinFields separator) := by
  -- Every separator of the join sets its first piece off from the others.
  induction pieces with
  | nil => exact absurd rfl filled
  | cons piece more ih =>
    rw [List.mapM_cons]
    cases more with
    | nil =>
      rw [joinFields_singleton]
      cases read piece <;> simp
    | cons next others =>
      rw [joinFields_cons_cons, apart, ih (by simp)]
      cases read piece with
      | none => rfl
      | some left =>
        cases rest : (next :: others).mapM read with
        | none => rfl
        | some texts =>
          -- There are as many texts as pieces, so the separator stands in front of one.
          obtain ⟨text, behind, rfl⟩ : ∃ text behind, texts = text :: behind := by
            simp only [List.mapM_cons, Option.bind_eq_bind, Option.bind_eq_some_iff,
              Option.pure_def, Option.some.injEq] at rest
            obtain ⟨text, -, behind, -, same⟩ := rest
            exact ⟨text, behind, same.symm⟩
          simp

end Reading

end Locator
