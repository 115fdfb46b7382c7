import Locator.Proofs.Url.Path
import Locator.Url.Update

/-! Reading URLs under the schemes that need a host, one settled component after another. -/

namespace Locator

/-- A part that may be missing, behind the character that announces it. -/
def marked (mark : Char) : Option (List Char) → List Char
  | none => []
  | some text => mark :: text

/-- A part behind a visible mark is visible. -/
theorem isVisible_marked {mark : Char} (shown : Ascii.isControlOrSpace mark = false)
    {part : Option (List Char)} (each : ∀ text ∈ part, IsVisible text) :
    IsVisible (marked mark part) := by
  -- A missing part leaves no mark behind.
  cases part with
  | none => simp [marked, IsVisible]
  | some text =>
    intro c member
    rcases List.mem_cons.mp member with same | inside
    · rw [same, shown]
    · exact each text rfl c inside

/-- A text that is read as an authority, whatever follows it. -/
structure Authority.IsReadFrom (scheme : String) (authority : Authority) (text : List Char) :
    Prop where
  /-- There is a text at all. -/
  filled : text ≠ []
  /-- The text is visible. -/
  visible : IsVisible text
  /-- No character ends the authority. -/
  whole : ∀ c ∈ text, Url.endsAuthority true c = false
  /-- The text is read to its end. -/
  read : ∀ after, Authority.read scheme text after = .ok (authority, after)

/-- Exactly the two slashes in front of an authority are passed over. -/
theorem Authority.IsReadFrom.dropWhile_isSlash {scheme : String} {authority : Authority}
    {text : List Char} (front : authority.IsReadFrom scheme text) (after : List Char) :
    ('/' :: '/' :: text ++ after).dropWhile (Path.isSlash true) = text ++ after := by
  -- A slash ends an authority, so none starts it.
  obtain ⟨first, more, rfl⟩ := List.exists_cons_of_ne_nil front.filled
  have other := front.whole first List.mem_cons_self
  simp only [Url.endsAuthority, Bool.or_eq_false_iff] at other
  have slash : Path.isSlash true '/' = true := by decide
  simp [slash, other.1.1]

namespace Scheme

/-- There are five schemes that need a host. -/
theorem needsHost_iff {scheme : String} :
    needsHost scheme ↔ scheme ∈ ["http", "ws", "https", "wss", "ftp"] := by
  -- They are the schemes with a port of their own.
  unfold needsHost defaultPort?
  simp only [List.mem_cons, List.not_mem_nil, or_false]
  grind

/-- A scheme that needs a host is read from its own spelling, and has the rules of special ones. -/
theorem split?_of_needsHost {scheme : String} (known : needsHost scheme) :
    split? scheme.toList = some (scheme, none) ∧ ':' ∉ scheme.toList ∧ IsVisible scheme.toList ∧
      isFile scheme = false ∧ isSpecial scheme = true := by
  -- The five schemes are checked one by one.
  have member := needsHost_iff.mp known
  simp only [List.mem_cons, List.not_mem_nil, or_false] at member
  rcases member with rfl | rfl | rfl | rfl | rfl <;> decide

/-- A scheme that needs a host has the rules of special ones. -/
theorem isSpecial_of_needsHost {scheme : String} (known : needsHost scheme) :
    isSpecial scheme = true :=
  (split?_of_needsHost known).2.2.2.2

/-- A scheme that needs a host is not that of files. -/
theorem isFile_of_needsHost {scheme : String} (known : needsHost scheme) : isFile scheme = false :=
  (split?_of_needsHost known).2.2.2.1

/-- A text that is nothing but the name of a scheme holds no other characters, and the scheme is
that name in small letters. -/
theorem eq_of_split? {scheme : String} {text : List Char}
    (spelled : split? text = some (scheme, none)) :
    (∀ c ∈ text, isCharacter c) ∧ scheme = .ofList (text.map Char.toLower) := by
  unfold split? at spelled
  split at spelled
  · cases spelled
  rename_i first rest
  split at spelled
  · dsimp only at spelled
    -- Anything behind the name would have been told.
    split at spelled
    · rename_i none
      have whole := List.takeWhile_append_dropWhile (p := isCharacter) (l := first :: rest)
      rw [none, List.append_nil] at whole
      rw [whole] at spelled
      cases spelled
      refine ⟨?_, rfl⟩
      -- Every character that was taken is one of a scheme.
      rw [← whole]
      exact List.all_eq_true.mp List.all_takeWhile
    · cases spelled
    · cases spelled
  · cases spelled

end Scheme

namespace Url

/-- A text without a question mark or a hash is a path, and a query without a hash ends at one. -/
theorem splitTail_append {path : List Char} {query fragment : Option (List Char)}
    (plain : '?' ∉ path ∧ '#' ∉ path) (inner : ∀ text ∈ query, '#' ∉ text) :
    splitTail (path ++ marked '?' query ++ marked '#' fragment) = (path, query, fragment) := by
  -- The fragment is cut off first, and then the query.
  have front : '#' ∉ path ++ marked '?' query := by
    cases query with
    | none => simpa [marked] using plain.2
    | some text => simpa [marked, plain.2] using inner text rfl
  have cutQuery : splitFirst '?' (path ++ marked '?' query) =
      query.map fun text => (path, text) := by
    cases query with
    | none => simpa [marked, splitFirst_eq_none_iff] using plain.1
    | some text => exact splitFirst_append text plain.1
  have cutFragment : splitFirst '#' (path ++ marked '?' query ++ marked '#' fragment) =
      fragment.map fun text => (path ++ marked '?' query, text) := by
    cases fragment with
    | none => simpa [marked, splitFirst_eq_none_iff] using front
    | some text => exact splitFirst_append text front
  -- What is cut off is given back as it was marked.
  rw [splitTail, cutFragment]
  cases fragment with
  | none =>
    -- Without a fragment the text ends with the query.
    have whole : path ++ marked '?' query ++ marked '#' none = path ++ marked '?' query :=
      List.append_nil _
    simp only [Option.map_none, whole, cutQuery]
    cases query with
    | none => simp [marked]
    | some text => rfl
  | some text =>
    simp only [Option.map_some, cutQuery]
    cases query with
    | none => simp [marked]
    | some text => rfl

/-- The components behind an authority, when reading changes none of them. -/
structure IsSettledTail (segments : List (List Char)) (query fragment : Option (List Char)) :
    Prop where
  /-- The segments of the path. -/
  path : ∀ segment ∈ segments, Path.IsSettled segment
  /-- The query, under the rules of special schemes. -/
  query : ∀ text ∈ query, ∀ c ∈ text, Component.inQuery true c
  /-- The fragment. -/
  fragment : ∀ text ∈ fragment, ∀ c ∈ text, Component.inFragment c

/-- The written form of the components behind an authority. -/
def tailText (segments : List (List Char)) (query fragment : Option (List Char)) : List Char :=
  segments.flatMap ('/' :: ·) ++ marked '?' query ++ marked '#' fragment

namespace IsSettledTail

variable {segments : List (List Char)} {query fragment : Option (List Char)}

/-- The characters of the path are kept ones and slashes. -/
theorem inPath_of_mem (tail : IsSettledTail segments query fragment) :
    ∀ c ∈ segments.flatMap ('/' :: ·), Component.inPath c := by
  -- A path keeps slashes, although they end its segments.
  intro c member
  obtain ⟨segment, known, inside⟩ := List.mem_flatMap.mp member
  rcases List.mem_cons.mp inside with same | held
  · rw [same]
    decide
  · exact (tail.path segment known).kept c held

/-- The written form is cut into the components again. -/
theorem splitTail_eq (tail : IsSettledTail segments query fragment) :
    splitTail (tailText segments query fragment) =
      (segments.flatMap ('/' :: ·), query, fragment) := by
  -- A path keeps no question mark and no hash, and a query keeps no hash.
  refine splitTail_append ⟨?_, ?_⟩ ?_
  · intro member
    exact absurd (tail.inPath_of_mem '?' member) (by decide)
  · intro member
    exact absurd (tail.inPath_of_mem '#' member) (by decide)
  · intro text held member
    exact absurd (tail.query text held '#' member) (by decide)

/-- The written form is visible. -/
theorem isVisible (tail : IsSettledTail segments query fragment) :
    IsVisible (tailText segments query fragment) := by
  -- Each component keeps visible characters only.
  have pathVisible : IsVisible (segments.flatMap ('/' :: ·)) :=
    Component.isVisible_of_inFragment fun c member =>
      Component.inFragment_of_inPath (tail.inPath_of_mem c member)
  have queryVisible : IsVisible (marked '?' query) :=
    isVisible_marked (by decide) fun text held =>
      Component.isVisible_of_inQuery (tail.query text held)
  have fragmentVisible : IsVisible (marked '#' fragment) :=
    isVisible_marked (by decide) fun text held =>
      Component.isVisible_of_inFragment (tail.fragment text held)
  exact (pathVisible.append queryVisible).append fragmentVisible

/-- The written form ends an authority in front of it. -/
theorem endsAuthority_head? (segments : List (List Char)) (query fragment : Option (List Char)) :
    ∀ c ∈ (tailText segments query fragment).head?, endsAuthority true c := by
  -- It starts with a slash, a question mark or a hash.
  intro c first
  have opening : c = '/' ∨ c = '?' ∨ c = '#' := by
    unfold tailText at first
    cases segments with
    | cons segment more => exact .inl (Option.some.inj first).symm
    | nil =>
      cases query with
      | some text => exact .inr (.inl (Option.some.inj first).symm)
      | none =>
        cases fragment with
        | some text => exact .inr (.inr (Option.some.inj first).symm)
        | none => cases first
  rcases opening with same | same | same <;> rw [same] <;> decide

end IsSettledTail

/-- A text that is read as an authority is taken off the front, and the rest is cut into a path, a
query and a fragment. -/
theorem readWithAuthority_append {scheme : String} (special : Scheme.isSpecial scheme = true)
    {authority : Authority} {text after : List Char} (front : authority.IsReadFrom scheme text)
    (ends : ∀ c ∈ after.head?, endsAuthority true c) :
    readWithAuthority scheme (text ++ after) =
      .ok ⟨scheme, some authority, false, pathAfterAuthority true (splitTail after).1,
        (splitTail after).2.1.map (encodeQuery scheme),
        (splitTail after).2.2.map encodeFragment⟩ := by
  -- The authority goes as far as the first character that ends it.
  have passed : ∀ c ∈ text, (fun c => !endsAuthority true c) c = true := by
    intro c member
    simp [front.whole c member]
  have cut : after.takeWhile (fun c => !endsAuthority true c) = [] ∧
      after.dropWhile (fun c => !endsAuthority true c) = after := by
    cases after with
    | nil => exact ⟨rfl, rfl⟩
    | cons c rest =>
      have stops := ends c rfl
      simp [stops]
  rw [readWithAuthority, special]
  simp only [List.takeWhile_append_of_pos passed, List.dropWhile_append_of_pos passed, cut.1, cut.2,
    List.append_nil, front.read]
  rfl

/-- The URL of settled components; without any segments the path is the root. -/
def ofSettled (scheme : String) (authority : Authority) (segments : List (List Char))
    (query fragment : Option (List Char)) : Url :=
  ⟨scheme, some authority, false,
    .segmented (if segments = [] then [""] else segments.map .ofList),
    query.map .ofList, fragment.map .ofList⟩

section Settled

variable {scheme : String} {authority : Authority} {text : List Char}
  {segments : List (List Char)} {query fragment : Option (List Char)}

/-- The path segments of settled components are those that are not empty. -/
theorem pathSegments_ofSettled (settled : ∀ segment ∈ segments, Path.IsSettled segment) :
    (ofSettled scheme authority segments query fragment).pathSegments =
      (segments.filter (· ≠ [])).map .ofList := by
  by_cases none : segments = []
  · -- The root has one segment, which is empty.
    subst none
    have root : (ofSettled scheme authority [] query fragment).path =
        .segmented ([[]].map .ofList) := rfl
    rw [pathSegments_eq root (by simp)]
    rfl
  · refine pathSegments_eq ?_ fun segment member => (settled segment member).not_mem
    rw [ofSettled, if_neg none]

/-- The groups of a settled query are those of its text. -/
theorem queryGroups_ofSettled (text : List Char) :
    (ofSettled scheme authority segments (some text) fragment).queryGroups =
      Form.parseQuery (.ofList text) := rfl

/-- What stands behind the colon of a scheme is visible. -/
theorem isVisible_of_settled (front : authority.IsReadFrom scheme text)
    (tail : IsSettledTail segments query fragment) :
    IsVisible ('/' :: '/' :: text ++ tailText segments query fragment) := by
  -- The two slashes, the authority and the components are put together.
  have slashes : IsVisible ['/', '/'] := by decide
  exact (slashes.append front.visible).append tail.isVisible

/-- An authority and settled components are read as they stand. -/
theorem readWithAuthority_of_settled (special : Scheme.isSpecial scheme = true)
    (front : authority.IsReadFrom scheme text) (tail : IsSettledTail segments query fragment) :
    readWithAuthority scheme (text ++ tailText segments query fragment) =
      .ok (ofSettled scheme authority segments query fragment) := by
  -- Nothing in the query or the fragment has to be encoded.
  have queryKept : query.map (encodeQuery scheme) = query.map .ofList := by
    cases query with
    | none => rfl
    | some held =>
      rw [Option.map_some, Option.map_some, encodeQuery, special,
        Component.encode_of_kept (tail.query held rfl)]
  have fragmentKept : fragment.map encodeFragment = fragment.map .ofList := by
    cases fragment with
    | none => rfl
    | some held =>
      rw [Option.map_some, Option.map_some, encodeFragment,
        Component.encode_of_kept (tail.fragment held rfl)]
  -- A special scheme has a path in any case.
  have path : pathAfterAuthority true (segments.flatMap ('/' :: ·)) =
      .segmented (if segments = [] then [""] else segments.map .ofList) :=
    Path.read_dropSlash tail.path
  have ends := IsSettledTail.endsAuthority_head? segments query fragment
  rw [readWithAuthority_append special front ends, tail.splitTail_eq]
  simp only [path, queryKept, fragmentKept, ofSettled]

/-- A URL is read from its written form: a scheme that needs a host, an authority and settled
components. -/
theorem read_of_settled (known : Scheme.needsHost scheme)
    (front : authority.IsReadFrom scheme text) (tail : IsSettledTail segments query fragment) :
    read (.ofList (scheme.toList ++
        ':' :: ('/' :: '/' :: text ++ tailText segments query fragment))) =
      .ok (ofSettled scheme authority segments query fragment) := by
  obtain ⟨spelled, absent, schemeVisible, notFile, special⟩ := Scheme.split?_of_needsHost known
  have innerVisible := isVisible_of_settled front tail
  -- Everything is visible, so nothing is trimmed or stripped.
  have visible : IsVisible (scheme.toList ++
      ':' :: ('/' :: '/' :: text ++ tailText segments query fragment)) := by
    have colon : IsVisible [':'] := by decide
    exact schemeVisible.append (colon.append innerVisible)
  rw [read, String.toList_ofList, visible.trim_eq, splitFirst_append _ absent]
  -- The first colon is the one behind the scheme, because the scheme holds none.
  simp only [schemeVisible.strip_eq, spelled]
  rw [readAfterScheme, innerVisible.strip_eq, notFile, special]
  simp only [Bool.false_eq_true, if_false, if_true, front.dropWhile_isSlash]
  exact readWithAuthority_of_settled special front tail

end Settled

end Url

end Locator
