import Locator.Proofs.Text.Fields
import Locator.Proofs.Url.Component
import Locator.Url.Basic

/-! Paths of URLs: segments that nothing has to be changed in are read as they stand. -/

namespace Locator

namespace Path

/-- A segment that reading leaves as it is. -/
structure IsSettled (segment : List Char) : Prop where
  /-- Every character is kept. -/
  kept : ∀ c ∈ segment, Component.inPath c
  /-- No character ends the segment. -/
  whole : ∀ c ∈ segment, isSlash true c = false
  /-- The segment is no dot. -/
  single : isSingleDot segment = false
  /-- The segment is no pair of dots. -/
  double : isDoubleDot segment = false

namespace IsSettled

variable {segment : List Char}

/-- A settled segment is visible. -/
theorem isVisible (settled : IsSettled segment) : IsVisible segment :=
  Component.isVisible_of_inFragment fun c member =>
    Component.inFragment_of_inPath (settled.kept c member)

/-- A settled segment holds no slash. -/
theorem not_mem (settled : IsSettled segment) : '/' ∉ segment := by
  -- No character of a settled segment is a slash.
  intro member
  exact absurd (settled.whole '/' member) (by decide)

end IsSettled

/-- A text that is read as a segment of its own: nothing in it is dropped or separates segments, and
it is no dots. -/
structure IsPiece (text : List Char) : Prop where
  /-- It holds no tabs and no line breaks. -/
  unbroken : ∀ c ∈ text, Ascii.isTabOrNewline c = false
  /-- No character ends the segment. -/
  whole : ∀ c ∈ text, isSlash true c = false
  /-- The text is no dot. -/
  single : isSingleDot text = false
  /-- The text is no pair of dots. -/
  double : isDoubleDot text = false

/-- A settled segment is read as one. -/
theorem IsSettled.isPiece {segment : List Char} (settled : IsSettled segment) : IsPiece segment :=
  ⟨settled.isVisible.unbroken, settled.whole, settled.single, settled.double⟩

/-- The empty text is read as an empty segment. -/
theorem isPiece_nil : IsPiece [] :=
  ⟨by simp, by simp, by decide, by decide⟩

/-- Segments are encoded and added one after another. -/
theorem resolve_of_isPiece {segments : List (List Char)}
    (each : ∀ segment ∈ segments, IsPiece segment) (draft : Draft) :
    (draft.resolve false segments).pieces =
      (segments.map (Percent.encode Component.inPath)).reverse ++ draft.pieces := by
  -- The pieces of a draft stand with the last one first.
  induction segments generalizing draft with
  | nil => rfl
  | cons segment rest ih =>
    have here := each segment List.mem_cons_self
    have stripped := Component.strip_of_unbroken here.unbroken
    -- The segment is neither stripped nor dots, so it is encoded as it stands.
    have added : draft.add false segment =
        { draft with pieces := Percent.encode Component.inPath segment :: draft.pieces } := by
      simp [Draft.add, stripped]
    rw [Draft.resolve]
    simp only [stripped, here.single, here.double]
    rw [if_neg Bool.false_ne_true, if_neg Bool.false_ne_true, added,
      ih fun other member => each other (List.mem_cons_of_mem _ member)]
    simp

/-- Texts with slashes between them are read as the segments that they are. -/
theorem read_joinFields_of_isPiece {segments : List (List Char)} (filled : segments ≠ [])
    (each : ∀ segment ∈ segments, IsPiece segment) :
    read true (joinFields '/' segments) =
      segmented ((segments.map (Percent.encode Component.inPath)).map .ofList) := by
  -- Backslashes would separate segments too, but there are none.
  have unified : unifySlashes true (joinFields '/' segments) =
      (joinFields '/' segments).map id := by
    refine List.map_congr_left ?_
    intro c member
    rcases mem_joinFields member with same | ⟨segment, known, inside⟩
    · rw [same]
      rfl
    · have other := (each segment known).whole c inside
      simp [other]
  -- So the separators of the join are the only places to cut.
  have cut : Path.segments true (joinFields '/' segments) = segments := by
    rw [Path.segments, unified, List.map_id, fields_joinFields filled]
    intro segment known member
    exact absurd ((each segment known).whole '/' member) (by decide)
  rw [read, cut, resolve_of_isPiece each]
  simp [Draft.root]

/-- Settled segments with slashes between them are read as they stand. -/
theorem read_joinFields {segments : List (List Char)} (filled : segments ≠ [])
    (settled : ∀ segment ∈ segments, IsSettled segment) :
    read true (joinFields '/' segments) = segmented (segments.map .ofList) := by
  -- A settled segment has nothing to encode.
  have same : segments.map (Percent.encode Component.inPath) = segments.map id :=
    List.map_congr_left fun segment member => Percent.encode_of_kept (settled segment member).kept
  rw [read_joinFields_of_isPiece filled fun segment member => (settled segment member).isPiece, same,
    List.map_id]

/-- Settled segments behind slashes are read as they stand; without any, the root has an empty
one. -/
theorem read_dropSlash {segments : List (List Char)}
    (settled : ∀ segment ∈ segments, IsSettled segment) :
    read true (dropSlash true (segments.flatMap ('/' :: ·))) =
      segmented (if segments = [] then [""] else segments.map .ofList) := by
  by_cases none : segments = []
  · -- The empty text has one segment, which is empty.
    subst none
    decide
  · -- The slash in front of the first segment is the one that is dropped.
    rw [← cons_joinFields none, if_neg none]
    exact read_joinFields none settled

end Path

/-- The segments of a path that are not empty stand in the path as they are. -/
theorem Url.pathSegments_eq {url : Url} {segments : List (List Char)}
    (path : url.path = .segmented (segments.map .ofList))
    (absent : ∀ segment ∈ segments, '/' ∉ segment) :
    url.pathSegments = (segments.filter (· ≠ [])).map .ofList := by
  -- The path opens with a slash, so the first piece between slashes is empty.
  have text : url.pathText.toList = segments.flatMap ('/' :: ·) := by
    simp [pathText, path, Path.text, List.flatMap_map]
  rw [pathSegments, text]
  by_cases none : segments = []
  · rw [none]
    rfl
  · have opening : fields '/' ('/' :: joinFields '/' segments) = [] :: segments := by
      rw [fields, if_pos rfl, fields_joinFields none absent]
    rw [← cons_joinFields none, opening]
    simp

end Locator
