import Locator.Proofs.Url.Path.Resolving

/-! Paths of file URLs: whatever a text spells, the segments that are read from it are encoded. They
need not be settled, because what is cut off behind a drive letter is never taken for dots. -/

namespace Locator

namespace Path

/-- Letters are kept in a path and separate nothing. -/
theorem isEncoded_drive {letter : Char} (alphabetic : letter.isAlpha) : IsEncoded [letter, ':'] := by
  -- Letters lie within ASCII, where all characters are checked.
  have every : ∀ c : Char, c.toNat < 128 → c.isAlphanum →
      Component.inPath c ∧ isSlash true c = false := Ascii.forall_of_lt (by decide)
  have alphanumeric : letter.isAlphanum := by simp [Char.isAlphanum, alphabetic]
  obtain ⟨kept, whole⟩ := every letter (Ascii.toNat_lt_of_isAlphanum alphanumeric) alphanumeric
  refine ⟨?_, ?_⟩ <;> intro c member <;>
    simp only [List.mem_cons, List.not_mem_nil, or_false] at member
  · rcases member with rfl | rfl
    · exact kept
    · decide
  · rcases member with rfl | rfl
    · exact whole
    · decide

/-- A drive letter that is cut off is encoded, and the rest separates nothing. -/
theorem isEncoded_of_cutDrive? {text drive rest : List Char}
    (whole : ∀ c ∈ text, isSlash true c = false) (cut : cutDrive? text = some (drive, rest)) :
    IsEncoded drive ∧ ∀ c ∈ rest, isSlash true c = false := by
  unfold cutDrive? at cut
  split at cut
  · cases cut
  -- A drive is a letter with a colon or a bar behind it.
  rename_i letter more opened
  split at cut
  · rename_i after behind
    simp only at cut
    split at cut
    · rename_i passed
      cases cut
      simp only [Bool.and_eq_true] at passed
      refine ⟨isEncoded_drive passed.1.1, fun c member => whole c ?_⟩
      -- The rest stands behind the colon, which stands behind the letter.
      have inAfter : c ∈ ':' :: after := List.mem_cons_of_mem _ (List.mem_filter.mp member).1
      have inMore : c ∈ more := (List.dropWhile_sublist _).subset (behind ▸ inAfter)
      have inText : c ∈ letter :: more := List.mem_cons_of_mem _ inMore
      exact (List.dropWhile_sublist _).subset (opened ▸ inText)
    · cases cut
  · cases cut

/-- The same holds for a drive letter behind one more character. -/
theorem isEncoded_of_cut? {before : List (List Char)} {text outer inner : List Char}
    (whole : ∀ c ∈ text, isSlash true c = false) (cut : cut? before text = some (outer, inner)) :
    IsEncoded outer ∧ ∀ c ∈ inner, isSlash true c = false := by
  unfold cut? at cut
  split at cut
  · exact isEncoded_of_cutDrive? whole cut
  · split at cut
    · cases cut
    rename_i first rest opened
    -- What is looked at is the text without the tabs and newlines at its front.
    have inText : ∀ c ∈ first :: rest, c ∈ text := fun c member =>
      (List.dropWhile_sublist _).subset (opened ▸ member)
    split at cut
    · rename_i kept
      obtain ⟨⟨drive, behind⟩, found, same⟩ := Option.map_eq_some_iff.mp cut
      cases same
      obtain ⟨encoded, left⟩ := isEncoded_of_cutDrive?
        (fun c member => whole c (inText c (List.mem_cons_of_mem _ member))) found
      -- The character in front is kept as well.
      refine ⟨⟨?_, ?_⟩, left⟩ <;> intro c member <;>
        rcases List.mem_cons.mp member with same | inside
      · exact same ▸ kept
      · exact encoded.kept c inside
      · exact same ▸ whole first (inText first List.mem_cons_self)
      · exact encoded.whole c inside
    · cases cut
  · cases cut

/-- Two dots add no piece. -/
theorem mem_of_mem_ascend {pieces : List (List Char)} {piece : List Char}
    (member : piece ∈ ascend pieces) : piece ∈ pieces := by
  -- Going up leaves out the nearest segment or none.
  unfold ascend at member
  split at member
  · exact member
  · exact member
  · split at member
    · exact member
    · exact List.mem_cons_of_mem _ member

namespace Draft

/-- A draft all of whose pieces are encoded. -/
def IsEncoded (draft : Draft) : Prop :=
  ∀ piece ∈ draft.pieces, Path.IsEncoded piece

variable {draft : Draft}

/-- An encoded piece may be added. -/
theorem IsEncoded.push (encoded : draft.IsEncoded) {piece : List Char}
    (added : Path.IsEncoded piece) (onDrive : Bool) :
    (Draft.mk (piece :: draft.pieces) onDrive).IsEncoded := by
  -- The new segment stands in front of the others.
  intro other member
  rcases List.mem_cons.mp member with same | known
  · exact same ▸ added
  · exact encoded other known

/-- An empty piece at the end is encoded. -/
theorem IsEncoded.closeBefore (encoded : draft.IsEncoded) (rest : List (List Char)) :
    (draft.closeBefore rest).IsEncoded := by
  -- At most an empty segment is added.
  unfold Draft.closeBefore
  split
  · exact encoded.push isSettled_nil.isEncoded _
  · exact encoded

/-- A segment is encoded when it is added, and so are the two pieces that it may fall into. -/
theorem IsEncoded.add (encoded : draft.IsEncoded) (file : Bool) {segment : List Char}
    (whole : ∀ c ∈ segment, isSlash true c = false) : (draft.add file segment).IsEncoded := by
  have piece : Path.IsEncoded (Percent.encode Component.inPath (Component.strip segment)) :=
    isEncoded_encode fun c member => whole c (List.mem_filter.mp member).1
  unfold Draft.add
  dsimp only
  split
  · rename_i outer inner cut
    -- Only in a file path a segment is cut.
    split at cut
    · obtain ⟨front, behind⟩ := isEncoded_of_cut? whole cut
      exact (encoded.push front draft.onDrive).push (isEncoded_encode behind) _
    · cases cut
  · split
    · rename_i drive
      simp only [Bool.and_eq_true] at drive
      -- The bar of a drive letter becomes a colon.
      refine encoded.push ⟨?_, ?_⟩ _ <;> intro c member <;>
        rcases List.mem_append.mp member with letter | colon
      · exact piece.kept c (List.mem_of_mem_take letter)
      · exact List.mem_singleton.mp colon ▸ (by decide)
      · exact piece.whole c (List.mem_of_mem_take letter)
      · exact List.mem_singleton.mp colon ▸ (by decide)
    · exact encoded.push piece _

/-- Resolving keeps all pieces encoded. -/
theorem IsEncoded.resolve (encoded : draft.IsEncoded) (file : Bool) {segments : List (List Char)}
    (whole : ∀ segment ∈ segments, ∀ c ∈ segment, isSlash true c = false) :
    (draft.resolve file segments).IsEncoded := by
  -- The induction is on the segments to come, for all drafts that they may meet.
  induction segments generalizing draft with
  | nil => exact encoded
  | cons segment rest ih =>
    have others : ∀ other ∈ rest, ∀ c ∈ other, isSlash true c = false :=
      fun other member => whole other (List.mem_cons_of_mem _ member)
    rw [Draft.resolve]
    split
    · -- Two dots take a piece away, and may leave an empty one at the end.
      refine ih (IsEncoded.closeBefore ?_ rest) others
      exact fun piece member => encoded piece (mem_of_mem_ascend member)
    · split
      · -- One dot is left out, and may leave an empty piece at the end.
        exact ih (encoded.closeBefore rest) others
      · exact ih (encoded.add file (whole segment List.mem_cons_self)) others

end Draft

/-- A path of encoded segments, of which there is at least one. -/
def IsSegmented (path : Path) : Prop :=
  ∃ segments, segments ≠ [] ∧ (∀ segment ∈ segments, IsEncoded segment) ∧
    path = segmented (segments.map .ofList)

/-- A resolved path is made of encoded segments. -/
theorem IsResolved.isSegmented {path : Path} (resolved : path.IsResolved) : path.IsSegmented := by
  -- Settled segments are encoded, and there is at least one.
  obtain ⟨segments, filled, settled, same⟩ := resolved
  exact ⟨segments, filled, fun segment member => (settled segment member).isEncoded, same⟩

/-- Whatever a text spells as a file path is made of encoded segments. -/
theorem isSegmented_ofFile_readFile (rooted : Bool) (text : List Char) :
    (ofFile (readFile rooted text)).IsSegmented := by
  -- The draft starts without pieces, or with an empty one.
  have start : (if rooted then Draft.root else Draft.empty).IsEncoded := by
    cases rooted <;> simp [Draft.IsEncoded, Draft.root, Draft.empty, isSettled_nil.isEncoded]
  have encoded : (readFile rooted text).IsEncoded :=
    start.resolve true fun segment member => isSlash_of_mem_segments member
  unfold ofFile
  split
  · -- Without any piece the path is the root.
    exact ⟨[[]], by simp, by simp [isSettled_nil.isEncoded], rfl⟩
  · rename_i kept filled
    refine ⟨(readFile rooted text).pieces.reverse.dropWhile List.isEmpty, filled, ?_, rfl⟩
    intro segment member
    exact encoded segment (List.mem_reverse.mp ((List.dropWhile_sublist _).subset member))

end Path

end Locator
