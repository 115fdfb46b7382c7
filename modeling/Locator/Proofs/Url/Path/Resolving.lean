import Locator.Proofs.Url.Path

/-! Resolving paths: whatever a text spells, the segments that are read from it are settled. -/

namespace Locator

namespace Path

/-- The spellings of one dot and of two dots. -/
def dotSpellings : List String :=
  [".", "%2e", "%2E", "..", "%2e%2e", "%2e%2E", "%2E%2e", "%2E%2E", "%2e.", "%2E.", ".%2e", ".%2E"]

/-- A segment is dots when it is one of the spellings. -/
theorem mem_dotSpellings_iff {segment : List Char} :
    String.ofList segment ∈ dotSpellings ↔ isSingleDot segment ∨ isDoubleDot segment := by
  -- The spellings are those of one dot and those of two, in another order.
  simp only [dotSpellings, isSingleDot, isDoubleDot, List.contains_iff_mem, List.mem_cons,
    List.not_mem_nil, or_false]
  grind

/-- A percent sign in a spelling of dots opens the triplet of a dot. -/
theorem take_drop_of_dots : ∀ dots ∈ dotSpellings, ∀ position < dots.toList.length,
    (dots.toList.drop position).head? = some '%' →
      (dots.toList.drop position).take 3 ∈ ["%2e".toList, "%2E".toList] := by
  -- Every percent sign in one of the spellings opens a triplet for a dot.
  decide

/-- The only triplet that is written for a dot is that of the dot. -/
theorem eq_of_triplet_dot : ∀ byte < 256,
    Percent.triplet (.ofNat byte) ∈ ["%2e".toList, "%2E".toList] → byte = '.'.toNat := by
  -- All 256 bytes are tried.
  decide +kernel

/-- The only triplet in a spelling of dots is that of the dot. -/
theorem toNat_of_triplet_infix {byte : UInt8} {dots : String} (spelled : dots ∈ dotSpellings)
    (inside : Percent.triplet byte <:+: dots.toList) : byte.toNat = '.'.toNat := by
  obtain ⟨front, back, whole⟩ := inside
  -- The triplet stands where the part in front of it ends.
  have behind : dots.toList.drop front.length = Percent.triplet byte ++ back := by
    rw [← whole, List.append_assoc, List.drop_left]
  have within : front.length < dots.toList.length := by
    rw [← whole]
    simp [Percent.triplet]
  have opened := take_drop_of_dots dots spelled front.length within
    (by simp [behind, Percent.triplet])
  rw [behind] at opened
  refine eq_of_triplet_dot byte.toNat byte.toNat_lt ?_
  simpa [Percent.triplet] using opened

/-- A text whose encoded form is dots is written as it is. -/
theorem encode_of_dots {text : List Char}
    (dots : .ofList (Percent.encode Component.inPath text) ∈ dotSpellings) :
    Percent.encode Component.inPath text = text := by
  refine Percent.encode_of_kept fun c member => ?_
  cases kept : Component.inPath c with
  | true => rfl
  | false =>
    -- Another character would leave the triplet of its first byte, which is not that of a dot.
    obtain ⟨byte, more, bytes, inside⟩ := Percent.exists_triplet_of_mem member kept
    have dot : byte.toNat = '.'.toNat := toNat_of_triplet_infix dots (by simpa using inside)
    have code : c.toNat = '.'.toNat := by
      rw [Utf8.toNat_eq_of_encodeChar bytes (by rw [dot]; decide), dot]
    have same : c = '.' := by
      rw [← Char.ofNat_toNat c, code, Char.ofNat_toNat]
    rw [same] at kept
    exact absurd kept (by decide)

/-- A segment that is encoded and separates nothing; it may still be dots. -/
structure IsEncoded (segment : List Char) : Prop where
  /-- Every character is kept. -/
  kept : ∀ c ∈ segment, Component.inPath c
  /-- No character ends the segment. -/
  whole : ∀ c ∈ segment, isSlash true c = false

/-- A settled segment is encoded. -/
theorem IsSettled.isEncoded {segment : List Char} (settled : IsSettled segment) :
    IsEncoded segment :=
  ⟨settled.kept, settled.whole⟩

/-- An encoded segment is settled unless it is dots. -/
theorem IsEncoded.isSettled {segment : List Char} (encoded : IsEncoded segment)
    (undotted : String.ofList segment ∉ dotSpellings) : IsSettled segment := by
  -- A settled segment is an encoded one that spells no dots.
  simp only [mem_dotSpellings_iff, not_or, Bool.not_eq_true] at undotted
  exact ⟨encoded.kept, encoded.whole, undotted.1, undotted.2⟩

/-- Encoding makes no separators. -/
theorem isEncoded_encode {segment : List Char} (whole : ∀ c ∈ segment, isSlash true c = false) :
    IsEncoded (Percent.encode Component.inPath segment) := by
  refine ⟨?_, ?_⟩
  · have kept : ∀ c ∈ (Component.encode Component.inPath segment).toList, Component.inPath c :=
      Component.kept_of_mem_encode (by decide) (by decide)
    rwa [Component.encode, String.toList_ofList] at kept
  · -- Neither a triplet nor what the segment held before ends it.
    have every : ∀ c : Char, c.toNat < 128 → c = '%' ∨ c.isAlphanum → isSlash true c = false :=
      Ascii.forall_of_lt (by decide)
    intro c member
    rcases Percent.mem_of_mem_encode member with ⟨inside, -⟩ | same | digit
    · exact whole c inside
    · exact same ▸ (by decide)
    · exact every c (Ascii.toNat_lt_of_isAlphanum digit) (.inr digit)

/-- A segment without separators is settled once it is encoded, unless it is dots. -/
theorem isSettled_encode {segment : List Char}
    (whole : ∀ c ∈ segment, isSlash true c = false) (single : isSingleDot segment = false)
    (double : isDoubleDot segment = false) :
    IsSettled (Percent.encode Component.inPath segment) := by
  -- Encoding writes no triplet for a dot, so dots could only come from dots in the segment.
  refine (isEncoded_encode whole).isSettled ?_
  intro dots
  rw [encode_of_dots dots, mem_dotSpellings_iff] at dots
  simp [single, double] at dots

/-- Nothing at all is a settled segment. -/
theorem isSettled_nil : IsSettled [] :=
  ⟨by simp, by simp, by decide, by decide⟩

/-- Above the root, two dots give up the last piece unless it starts with a drive letter. -/
theorem ascend_append_root (piece : List Char) (above : List (List Char)) :
    ascend (piece :: above ++ [[]]) =
      if holdsDrive piece then piece :: above ++ [[]] else above ++ [[]] := by
  -- The root stands below the last segment, with or without others between them.
  cases above <;> rfl

namespace Draft

/-- A draft of a path below the root: the root and settled pieces above it. -/
structure IsSettled (draft : Draft) (pieces : List (List Char)) : Prop where
  /-- The root lies below the pieces. -/
  rooted : draft.pieces = pieces ++ [[]]
  /-- No piece has to be changed. -/
  settled : ∀ piece ∈ pieces, Path.IsSettled piece

/-- What one segment makes of a draft; the segments behind it tell whether it is the last one. -/
def advance (draft : Draft) (segment : List Char) (rest : List (List Char)) : Draft :=
  if isDoubleDot (Component.strip segment) then
    { draft with pieces := ascend draft.pieces }.closeBefore rest
  else if isSingleDot (Component.strip segment) then draft.closeBefore rest
  else draft.add false segment

/-- Segments are resolved one after another. -/
theorem resolve_cons (draft : Draft) (segment : List Char) (rest : List (List Char)) :
    draft.resolve false (segment :: rest) =
      (draft.advance segment rest).resolve false rest := by
  -- One step is taken for the first segment, whatever it spells.
  rw [resolve, advance]
  split
  · rfl
  · split <;> rfl

variable {draft : Draft} {pieces : List (List Char)}

/-- Two dots leave settled pieces. -/
theorem IsSettled.exists_ascend (settled : draft.IsSettled pieces) :
    ∃ more, { draft with pieces := ascend draft.pieces }.IsSettled more := by
  cases pieces with
  | nil =>
    -- There is no piece above the root to give up.
    refine ⟨[], ?_, by simp⟩
    simp [settled.rooted, ascend]
  | cons piece above =>
    rw [settled.rooted, ascend_append_root]
    split
    · exact ⟨piece :: above, rfl, settled.settled⟩
    · exact ⟨above, rfl, fun other member => settled.settled other (List.mem_cons_of_mem _ member)⟩

/-- A settled piece may be added. -/
theorem IsSettled.push (settled : draft.IsSettled pieces) {piece : List Char}
    (added : Path.IsSettled piece) :
    { draft with pieces := piece :: draft.pieces }.IsSettled (piece :: pieces) := by
  -- The new segment stands in front of the settled ones.
  refine ⟨by simp [settled.rooted], ?_⟩
  intro other member
  rcases List.mem_cons.mp member with same | known
  · exact same ▸ added
  · exact settled.settled other known

/-- Dots at the end leave an empty piece, which is settled. -/
theorem IsSettled.exists_closeBefore (settled : draft.IsSettled pieces)
    (rest : List (List Char)) :
    ∃ more, (draft.closeBefore rest).IsSettled more ∧ (rest = [] → more ≠ []) := by
  -- An empty segment closes the path behind the last one only.
  unfold closeBefore
  cases rest with
  | nil => exact ⟨[] :: pieces, settled.push isSettled_nil, by simp⟩
  | cons next others => exact ⟨pieces, settled, by simp⟩

/-- One segment keeps a draft settled, and the last one leaves a piece above the root. -/
theorem IsSettled.exists_advance (settled : draft.IsSettled pieces) {segment : List Char}
    (whole : ∀ c ∈ segment, isSlash true c = false) (rest : List (List Char)) :
    ∃ more, (draft.advance segment rest).IsSettled more ∧ (rest = [] → more ≠ []) := by
  unfold advance
  split
  · obtain ⟨fewer, left⟩ := settled.exists_ascend
    exact left.exists_closeBefore rest
  · split
    · exact settled.exists_closeBefore rest
    · -- A segment that is no dots becomes a piece of its own.
      rename_i double single
      have inner : ∀ c ∈ Component.strip segment, isSlash true c = false := fun c member =>
        whole c (List.mem_filter.mp member).1
      have added := isSettled_encode inner (by simpa using single) (by simpa using double)
      exact ⟨_, settled.push added, by simp⟩

/-- Resolving keeps a draft settled and leaves a piece above the root. -/
theorem IsSettled.exists_resolve {segments : List (List Char)} (filled : segments ≠ [])
    (whole : ∀ segment ∈ segments, ∀ c ∈ segment, isSlash true c = false)
    (settled : draft.IsSettled pieces) :
    ∃ more, (draft.resolve false segments).IsSettled more ∧ more ≠ [] := by
  -- The induction is on the segments to come, for all drafts that they may meet.
  induction segments generalizing draft pieces with
  | nil => exact absurd rfl filled
  | cons segment rest ih =>
    obtain ⟨more, next, last⟩ := settled.exists_advance (whole segment List.mem_cons_self) rest
    rw [resolve_cons]
    by_cases ends : rest = []
    · subst ends
      exact ⟨more, next, last rfl⟩
    · exact ih ends (fun other member => whole other (List.mem_cons_of_mem _ member)) next

end Draft

/-- The segments of a text hold no separators. -/
theorem isSlash_of_mem_segments {text segment : List Char} (member : segment ∈ segments true text) :
    ∀ c ∈ segment, isSlash true c = false := by
  intro c inside
  have slash : c ≠ '/' := fun same => not_mem_of_mem_fields member (same ▸ inside)
  obtain ⟨origin, -, written⟩ := List.mem_map.mp (mem_of_mem_fields member inside)
  -- A backslash would have been written as a slash.
  split at written
  · exact absurd written.symm slash
  · rename_i other
    rw [← written]
    simpa using other

/-- A path of settled segments, of which there is at least one. -/
def IsResolved (path : Path) : Prop :=
  ∃ segments, segments ≠ [] ∧ (∀ segment ∈ segments, IsSettled segment) ∧
    path = segmented (segments.map .ofList)

/-- Whatever a text spells as a path is resolved. -/
theorem isResolved_read (text : List Char) : (read true text).IsResolved := by
  have root : Draft.root.IsSettled [] := ⟨rfl, by simp⟩
  obtain ⟨pieces, settled, filled⟩ := root.exists_resolve (fields_ne_nil _ _)
    fun segment member => isSlash_of_mem_segments member
  -- The pieces of a draft stand with the last one first.
  refine ⟨pieces.reverse, by simpa using filled, ?_, ?_⟩
  · exact fun segment member => settled.settled segment (List.mem_reverse.mp member)
  · rw [read, segments, settled.rooted]
    simp

end Path

end Locator
