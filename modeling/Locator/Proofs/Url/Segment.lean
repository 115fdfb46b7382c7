import Locator.Proofs.Url.Reachable

/-! Replacing one segment of a path: the segment that is given is encoded in its place, and all
others stay. The segments are joined and read again as a path, so dots among them would not be left
alone. -/

namespace Locator

section Replacing

variable {α : Type} {items : List α} {index : Nat} {item : α}

/-- After one item has been replaced there are the new one and the others. -/
theorem eq_or_mem_of_mem_set {other : α} (member : other ∈ items.set index item) :
    other = item ∨ other ∈ items.eraseIdx index := by
  -- By induction on the list, down to the index.
  induction items generalizing index with
  | nil => cases member
  | cons first rest ih =>
    cases index with
    | zero => simpa using member
    | succ position =>
      rcases List.mem_cons.mp member with same | behind
      · exact .inr (same ▸ List.mem_cons_self)
      · exact (ih behind).imp_right (List.mem_cons_of_mem _)

/-- A function that leaves all items but one alone may be applied before that one is replaced. -/
theorem map_set_of_fixed {change : α → α}
    (fixed : ∀ other ∈ items.eraseIdx index, change other = other) :
    (items.set index item).map change = items.set index (change item) := by
  -- By induction on the list, down to the index; behind it everything is fixed.
  induction items generalizing index with
  | nil => rfl
  | cons first rest ih =>
    cases index with
    | zero =>
      have same : rest.map change = rest.map id := List.map_congr_left fixed
      rw [List.set_cons_zero, List.set_cons_zero, List.map_cons, same, List.map_id]
    | succ position =>
      have here : change first = first := fixed first List.mem_cons_self
      have behind := ih fun other member => fixed other (List.mem_cons_of_mem _ member)
      rw [List.set_cons_succ, List.set_cons_succ, List.map_cons, here, behind]

end Replacing

namespace Path

/-- The text of segments ends in a slash exactly if the last segment is empty. -/
theorem getLast?_flatMap_iff {segments : List (List Char)} (filled : segments ≠ [])
    (absent : ∀ segment ∈ segments, '/' ∉ segment) :
    (segments.flatMap ('/' :: ·)).getLast? = some '/' ↔ segments.getLast? = some [] := by
  rcases List.eq_nil_or_concat segments with none | ⟨front, last, same⟩
  · exact absurd none filled
  rw [List.concat_eq_append] at same
  subst same
  -- Only the last segment, with its slash in front, is looked at.
  rw [List.flatMap_append, List.flatMap_singleton, List.getLast?_append, List.getLast?_concat]
  rcases List.eq_nil_or_concat last with rfl | ⟨inner, c, same⟩
  · -- An empty last segment leaves its slash at the end.
    simp
  · -- Otherwise its last character ends the text, and that is no slash.
    rw [List.concat_eq_append] at same
    subst same
    have other : c ≠ '/' := by
      rintro rfl
      exact absent (inner ++ ['/']) (by simp) (by simp)
    have ending : ('/' :: (inner ++ [c])).getLast? = some c := by
      rw [← List.cons_append]
      exact List.getLast?_concat
    simp [ending, other]

end Path

/-- Hexadecimal digits are kept in a path. -/
theorem Component.inPath_of_isHexDigit (c : Char) (digit : Ascii.isHexDigit c) : inPath c := by
  -- Digits lie within ASCII, where all characters are tried.
  have every : ∀ c : Char, c.toNat < 128 → Ascii.isHexDigit c → inPath c :=
    Ascii.forall_of_lt (by decide)
  exact every c (Ascii.toNat_lt_of_isHexDigit digit) digit

namespace Url

/-- Two URLs that agree on scheme, host, port, query and fragment, whatever their paths are. -/
structure AgreeBesidePath (first second : Url) : Prop where
  /-- The scheme. -/
  scheme : first.scheme = second.scheme
  /-- The host. -/
  host : first.hostText? = second.hostText?
  /-- The port. -/
  port : first.port? = second.port?
  /-- The query. -/
  query : first.query = second.query
  /-- The fragment. -/
  fragment : first.fragment = second.fragment

/-- The segments of a path text, encoded, with an empty one at the end if a slash ends the text. -/
def encodedSegments (segments : List String) (closed : Bool) : List (List Char) :=
  segments.map (fun segment => Percent.encode Component.inPath segment.toList) ++
    if closed then [[]] else []

section Encoded

variable {segments : List String} {closed : Bool}

/-- A path text of segments that are no dots is read as these segments, encoded. -/
theorem read_pathOfSegments (filled : segments ≠ [])
    (each : ∀ segment ∈ segments, Path.IsPiece segment.toList) :
    Path.read true (Path.dropSlash true (Component.strip
        (pathOfSegments segments closed).toList)) =
      .segmented ((encodedSegments segments closed).map .ofList) := by
  -- A slash at the end stands in front of an empty segment.
  let pieces := segments.map String.toList ++ if closed then [[]] else []
  have written : (pathOfSegments segments closed).toList = '/' :: joinFields '/' pieces := by
    cases closed with
    | false => simp [pathOfSegments, pieces]
    | true =>
      have joined : joinFields '/' (segments.map String.toList ++ [[]]) = _ :=
        joinFields_append (by simpa using filled) (by simp)
      simp [pathOfSegments, pieces, joined]
  -- Every piece is one of the segments or the empty one at the end.
  have whole : ∀ piece ∈ pieces, Path.IsPiece piece := by
    intro piece member
    rcases List.mem_append.mp member with known | last
    · obtain ⟨segment, listed, rfl⟩ := List.mem_map.mp known
      exact each segment listed
    · cases closed with
      | false => cases last
      | true => exact List.mem_singleton.mp last ▸ Path.isPiece_nil
  -- Nothing is dropped but the slash at the front.
  have unbroken : ∀ c ∈ '/' :: joinFields '/' pieces, Ascii.isTabOrNewline c = false := by
    intro c member
    rcases List.mem_cons.mp member with same | inside
    · exact same ▸ (by decide)
    · exact forall_mem_joinFields (by decide) (fun piece known => (whole piece known).unbroken) c
        inside
  have rooted (text : List Char) : Path.dropSlash true ('/' :: text) = text := by
    simp [Path.dropSlash, Ascii.isTabOrNewline, Path.isSlash]
  have encoded : pieces.map (Percent.encode Component.inPath) = encodedSegments segments closed := by
    cases closed <;> simp [pieces, encodedSegments, Function.comp_def, Percent.encode]
  calc
    Path.read true (Path.dropSlash true (Component.strip (pathOfSegments segments closed).toList)) =
        Path.read true (Path.dropSlash true ('/' :: joinFields '/' pieces)) := by
      rw [written, Component.strip_of_unbroken unbroken]
    _ = Path.read true (joinFields '/' pieces) := by rw [rooted]
    _ = .segmented ((pieces.map (Percent.encode Component.inPath)).map .ofList) :=
      Path.read_joinFields_of_isPiece (by simp [pieces, filled]) whole
    _ = .segmented ((encodedSegments segments closed).map .ofList) := by rw [encoded]

variable (each : ∀ segment ∈ segments, Path.IsPiece segment.toList ∧ segment ≠ "")

include each

/-- No encoded segment holds a slash. -/
theorem not_mem_of_mem_encodedSegments :
    ∀ piece ∈ encodedSegments segments closed, '/' ∉ piece := by
  intro piece member inside
  rcases List.mem_append.mp member with known | last
  · obtain ⟨segment, listed, rfl⟩ := List.mem_map.mp known
    have encoded := Path.isEncoded_encode (each segment listed).1.whole
    exact absurd (encoded.whole '/' inside) (by decide)
  · -- The segment behind a slash at the end is empty.
    cases closed with
    | false => cases last
    | true =>
      rw [List.mem_singleton.mp last] at inside
      cases inside

/-- The encoded segments that are not empty. -/
theorem filter_encodedSegments :
    (encodedSegments segments closed).filter (· ≠ []) =
      segments.map fun segment => Percent.encode Component.inPath segment.toList := by
  -- No given segment is empty, and encoding leaves none empty; only the closing one is left out.
  have visible : (segments.map fun segment => Percent.encode Component.inPath segment.toList).filter
      (· ≠ []) = segments.map fun segment => Percent.encode Component.inPath segment.toList := by
    rw [List.filter_eq_self]
    intro piece member
    obtain ⟨segment, listed, rfl⟩ := List.mem_map.mp member
    have filled : Percent.encode Component.inPath segment.toList ≠ [] :=
      Percent.encode_ne_nil (by simpa using (each segment listed).2)
    simpa using filled
  rw [encodedSegments, List.filter_append, visible]
  cases closed <;> simp

/-- The last of the encoded segments is empty only where a slash ends the text. -/
theorem getLast?_encodedSegments_iff :
    (encodedSegments segments closed).getLast? = some [] ↔ closed = true := by
  cases closed with
  | true => simp [encodedSegments]
  | false =>
    -- A segment that is not empty is not encoded as nothing.
    have visible : (encodedSegments segments false).filter (· ≠ []) = _ :=
      filter_encodedSegments each
    simp only [encodedSegments, Bool.false_eq_true, if_false, List.append_nil] at visible ⊢
    refine ⟨fun last => ?_, nofun⟩
    have member := List.mem_of_getLast? last
    rw [← visible, List.mem_filter] at member
    simp at member

end Encoded

variable {url : Url}

/-- A segment of a regular path that is not empty and no dots is settled. -/
theorem IsRegular.isSettled_of_mem (regular : url.IsRegular) {segment : String}
    (member : segment ∈ url.pathSegments) (undotted : segment ∉ Path.dotSpellings) :
    Path.IsSettled segment.toList ∧ segment ≠ "" := by
  obtain ⟨segments, -, encoded, path⟩ := regular.path
  -- The segments are the pieces of the path that are not empty.
  have listed := pathSegments_eq path fun piece known inside =>
    absurd ((encoded piece known).whole '/' inside) (by decide)
  rw [listed, List.mem_map] at member
  obtain ⟨piece, known, rfl⟩ := member
  obtain ⟨inside, filled⟩ := List.mem_filter.mp known
  refine ⟨?_, by simpa using filled⟩
  rw [String.toList_ofList]
  exact (encoded piece inside).isSettled undotted

/-- A text that is no dots takes the place of a segment among others that are none: it is encoded,
the other segments stay, and so does a slash at the end. -/
theorem IsRegular.exists_withPathSegment (regular : url.IsRegular)
    (remote : Scheme.isFile url.scheme = false) {index : Nat} {text : String}
    (inside : index < url.pathSegments.length)
    (others : ∀ segment ∈ url.pathSegments.eraseIdx index, segment ∉ Path.dotSpellings)
    (filled : text ≠ "") (piece : Path.IsPiece text.toList) :
    ∃ next, url.withPathSegment index text = .ok next ∧
      next.pathSegments =
        url.pathSegments.set index (Component.encode Component.inPath text.toList) ∧
      (next.pathText.toList.getLast? = some '/' ↔ url.pathText.toList.getLast? = some '/') ∧
      next.AgreeBesidePath url := by
  have settled : ∀ segment ∈ url.pathSegments.eraseIdx index,
      Path.IsSettled segment.toList ∧ segment ≠ "" := fun segment member =>
    regular.isSettled_of_mem (List.mem_of_mem_eraseIdx member) (others segment member)
  -- So none of the segments that are joined is dots, or empty.
  have each : ∀ segment ∈ url.pathSegments.set index text,
      Path.IsPiece segment.toList ∧ segment ≠ "" := by
    intro segment member
    rcases eq_or_mem_of_mem_set member with rfl | other
    · exact ⟨piece, filled⟩
    · exact ⟨(settled segment other).1.isPiece, (settled segment other).2⟩
  have some_segment : url.pathSegments.set index text ≠ [] := by
    rw [← List.length_pos_iff, List.length_set]
    omega
  obtain ⟨closed, ends⟩ : ∃ closed : Bool,
      decide (url.pathText.toList.getLast? = some '/') = closed := ⟨_, rfl⟩
  -- The path of the joined segments is read as these segments.
  let next : Url := { url with
    path := .segmented ((encodedSegments (url.pathSegments.set index text) closed).map .ofList) }
  obtain ⟨authority, named, -⟩ := regular.authority
  obtain ⟨pieces, -, -, path⟩ := regular.path
  have read : url.withPath (pathOfSegments (url.pathSegments.set index text) closed) = next := by
    rw [withPath_eq_read named path regular.special remote,
      read_pathOfSegments some_segment fun segment member => (each segment member).1]
  refine ⟨next, ?_, ?_, ?_, ⟨rfl, rfl, rfl, rfl, rfl⟩⟩
  · rw [withPathSegment]
    simp only [inside, if_true, ends, read]
  · -- Nothing in the other segments has to be encoded once more.
    have fixed : ∀ segment ∈ url.pathSegments.eraseIdx index,
        Component.encode Component.inPath segment.toList = segment := fun segment member => by
      rw [Component.encode_of_kept (settled segment member).1.kept, String.ofList_toList]
    have listed : next.path =
        .segmented ((encodedSegments (url.pathSegments.set index text) closed).map .ofList) := rfl
    rw [pathSegments_eq listed (not_mem_of_mem_encodedSegments each), filter_encodedSegments each,
      List.map_map, ← map_set_of_fixed fixed]
    rfl
  · -- The slash at the end is the one in front of an empty last segment.
    have written : next.pathText.toList =
        (encodedSegments (url.pathSegments.set index text) closed).flatMap ('/' :: ·) := by
      simp [next, pathText, Path.text, List.flatMap_map]
    have some_piece : encodedSegments (url.pathSegments.set index text) closed ≠ [] :=
      List.append_ne_nil_of_left_ne_nil (by simpa only [ne_eq, List.map_eq_nil_iff]) _
    rw [written, Path.getLast?_flatMap_iff some_piece (not_mem_of_mem_encodedSegments each),
      getLast?_encodedSegments_iff each, ← ends, decide_eq_true_iff]

/-- One segment of the path of a web URL is replaced by a text that is no dots: the text is encoded
where the segment was, all other segments stay, and so does a slash at the end. No other segment may
be dots, which only the path of a file that was given the scheme of the web can hold. -/
theorem withPathSegment_replaces {index : Nat} {text : String} (reachable : url.IsReachable)
    (known : url.scheme ∈ ["http", "https", "ws", "wss", "ftp"]) (filled : text ≠ "")
    (whole : ∀ c ∈ text.toList, c ∉ ['/', '\\', '\t', '\n', '\r'])
    (undotted : text ∉ Path.dotSpellings) :
    (index < url.pathSegments.length →
      (∀ segment ∈ url.pathSegments.eraseIdx index, segment ∉ Path.dotSpellings) →
      ∃ next written, url.withPathSegment index text = .ok next ∧
        next.pathSegments = url.pathSegments.set index written ∧
        Percent.decode written.toList = Percent.decode text.toList ∧
        (next.pathText.toList.getLast? = some '/' ↔ url.pathText.toList.getLast? = some '/') ∧
        next.AgreeBesidePath url) ∧
      (url.pathSegments.length ≤ index →
        url.withPathSegment index text = .error (.noSegment index url.pathSegments.length)) := by
  have regular := reachable.isRegular_of_mem known
  have piece : Path.IsPiece text.toList := by
    simp only [List.mem_cons, List.not_mem_nil, or_false, not_or] at whole
    have spelled := String.ofList_toList (s := text) ▸ undotted
    simp only [Path.mem_dotSpellings_iff, not_or, Bool.not_eq_true] at spelled
    -- The text has no separators and nothing that is dropped, and spells neither of the dots.
    refine ⟨fun c member => ?_, fun c member => ?_, spelled.1, spelled.2⟩
    · simp [Ascii.isTabOrNewline, whole c member]
    · simp [Path.isSlash, whole c member]
  refine ⟨fun inside others => ?_, fun beyond => ?_⟩
  · obtain ⟨next, set, segments, ends, agree⟩ := regular.exists_withPathSegment
      (Scheme.isFile_of_needsHost (Scheme.needsHost_of_mem known)) inside others filled piece
    refine ⟨next, _, set, segments, ?_, ends, agree⟩
    -- Percent signs are kept, so what is a triplet stays one.
    rw [Component.encode, String.toList_ofList]
    exact Percent.decode_encode (by decide) Component.inPath_of_isHexDigit text.toList
  · rw [withPathSegment]
    exact if_neg (Nat.not_lt.mpr beyond)

/-- Dots that a tab kept in the path of a file give way to a text with the marks of a query and a
fragment; there is no third segment to replace. -/
theorem withPathSegment_replaces_dots :
    ∃ start url next written, Url.parse "file://h/C:\t..//b/?q" = .ok start ∧
      start.changed [.scheme "http"] = .ok url ∧ url.pathSegments = ["C:", "..", "b"] ∧
      url.withPathSegment 1 "é?#%2f %" = .ok next ∧
      next.pathSegments = ["C:", written, "b"] ∧
      Percent.decode written.toList = Percent.decode "é?#%2f %".toList ∧
      next.pathText.toList.getLast? = some '/' ∧ next.AgreeBesidePath url ∧
      url.withPathSegment 3 "é?#%2f %" = .error (.noSegment 3 3) := by
  -- The segment of two dots is the one that is replaced, and the value holds every separator.
  have read : Url.parse "file://h/C:\t..//b/?q" =
      .ok ⟨"file", some (.ofHost (some (.name "h"))), false, .segmented ["C:", "..", "", "b", ""],
        some "q", none⟩ := rfl
  have reached : Url.changed ⟨"file", some (.ofHost (some (.name "h"))), false,
        .segmented ["C:", "..", "", "b", ""], some "q", none⟩ [.scheme "http"] =
      .ok ⟨"http", some (.ofHost (some (.name "h"))), false,
        .segmented ["C:", "..", "", "b", ""], some "q", none⟩ := rfl
  have all (index : Nat) := @withPathSegment_replaces _ index "é?#%2f %"
    ⟨_, _, _, read, reached⟩ (by decide) (by decide) (by simp) (by decide)
  obtain ⟨next, written, set, segments, decoded, ends, agree⟩ :=
    (all 1).1 (by decide) (by decide)
  exact ⟨_, _, next, written, read, reached, by decide, set, segments, decoded,
    ends.mpr (by decide), agree, (all 3).2 (by decide)⟩

/-- Where dots stay in the path, replacing the segment in front of them lets them give up the new
one. -/
theorem withPathSegment_loses_segment_to_dots :
    ∃ start url next, Url.parse "file://h/C:\t.." = .ok start ∧
      start.changed [.scheme "http"] = .ok url ∧ url.pathSegments = ["C:", ".."] ∧
      url.withPathSegment 0 "x" = .ok next ∧ next.pathSegments = [] :=
  ⟨_, _, _, rfl, rfl, by decide, rfl, by decide⟩

/-- A URL that was read under a scheme of the web, or of file transfer, never has dots in its path,
whatever changes it goes through. -/
theorem not_mem_dotSpellings_of_changed {text : String} {start : Url} {changes : List Change}
    (read : Url.parse text = .ok start)
    (known : start.scheme ∈ ["http", "https", "ws", "wss", "ftp"])
    (reached : start.changed changes = .ok url) :
    ∀ segment ∈ url.pathSegments, segment ∉ Path.dotSpellings := by
  have settled := (isSettled_of_parse read (Scheme.needsHost_of_mem known)).changed reached
  obtain ⟨segments, -, each, path⟩ := settled.path
  intro segment member
  rw [pathSegments_eq path fun piece inside => (each piece inside).not_mem, List.mem_map] at member
  obtain ⟨piece, inside, rfl⟩ := member
  -- Dots were resolved when the path was read, and every change reads it again.
  have undotted := each piece (List.mem_filter.mp inside).1
  simp [Path.mem_dotSpellings_iff, undotted.single, undotted.double]

end Url

end Locator
