import Locator.Proofs.Template.Cutting
import Locator.Proofs.Template.Expansion
import Locator.Proofs.Template.Query
import Locator.Proofs.Url.Reading

/-! URLs from templates: every component that is read is the value that was bound for it. -/

namespace Locator

namespace Path

/-- A segment that spells a single dot stands for one. -/
theorem decodeText?_of_isSingleDot {segment : List Char} (dot : isSingleDot segment) :
    Percent.decodeText? segment = some ".".toList := by
  -- There are three spellings.
  have every : ∀ text ∈ [".", "%2e", "%2E"], Percent.decodeText? text.toList = some ".".toList := by
    decide
  rw [isSingleDot, List.contains_iff_mem] at dot
  have read := every _ dot
  rwa [String.toList_ofList] at read

/-- A segment that spells two dots stands for them. -/
theorem decodeText?_of_isDoubleDot {segment : List Char} (dots : isDoubleDot segment) :
    Percent.decodeText? segment = some "..".toList := by
  -- Each of the dots has three spellings.
  have every : ∀ text ∈ ["..", "%2e%2e", "%2e%2E", "%2E%2e", "%2E%2E", "%2e.", "%2E.", ".%2e",
      ".%2E"], Percent.decodeText? text.toList = some "..".toList := by
    decide
  rw [isDoubleDot, List.contains_iff_mem] at dots
  have read := every _ dots
  rwa [String.toList_ofList] at read

/-- An escaped text is a settled segment unless the text is dots. -/
theorem isSettled_apply {text : String} (other : text ≠ "." ∧ text ≠ "..") :
    IsSettled (Escaping.all.apply text) := by
  -- A percent sign is escaped itself, so no other text can turn into a spelling of dots.
  have decoded := Escaping.decodeText?_apply .all text
  have kept (c : Char) (member : c ∈ Escaping.all.apply text) :=
    Component.kept_of_isUnreserved (Escaping.mem_apply_all member)
  refine ⟨fun c member => (kept c member).1, ?_, ?_, ?_⟩
  · -- An escaped text holds no separator at all.
    intro c member
    obtain ⟨-, -, -, free⟩ := kept c member
    simp only [List.mem_cons, not_or] at free
    simp [isSlash, free]
  · apply Bool.eq_false_iff.mpr
    intro dot
    rw [decodeText?_of_isSingleDot dot] at decoded
    exact other.1 (String.toList_inj.mp (Option.some.inj decoded)).symm
  · apply Bool.eq_false_iff.mpr
    intro dots
    rw [decodeText?_of_isDoubleDot dots] at decoded
    exact other.2 (String.toList_inj.mp (Option.some.inj decoded)).symm

end Path

namespace Expression

variable {bindings : Bindings} {name : String}

/-- A list that the path operator explodes is one escaped segment for each item. -/
theorem expand_path {texts : List String} (bound : bindings.get? name = some (.list texts))
    (filled : ∀ text ∈ texts, text ≠ "") :
    (Expression.mk .path [⟨name, some .explode⟩]).expand bindings =
      (texts.map Escaping.all.apply).flatMap ('/' :: ·) := by
  have written : Slot.expand Operator.path.style ⟨name, some .explode⟩ (.list texts) =
      joinFields '/' (texts.map Escaping.all.apply) := rfl
  cases texts with
  | nil =>
    -- Nothing is written, not even the leading slash.
    rw [expand_slot .path _ bound, written]
    rfl
  | cons text more =>
    -- The first segment is not empty, so the leading slash is written.
    have here : Escaping.all.apply text ≠ [] := escape_ne_nil (filled text List.mem_cons_self)
    have visible : joinFields '/' ((text :: more).map Escaping.all.apply) ≠ [] :=
      joinFields_ne_nil (List.mem_map_of_mem List.mem_cons_self) here
    rw [expand_slot .path _ bound, written, if_neg visible, ← cons_joinFields (by simp)]
    rfl

/-- Pairs that the query operator explodes are one assignment each. -/
theorem expand_query {entries : List (String × String)}
    (bound : bindings.get? name = some (.pairs entries)) (listed : entries ≠ []) :
    (Expression.mk .query [⟨name, some .explode⟩]).expand bindings =
      '?' :: (Style.form '?').assignments entries := by
  have written : Slot.expand Operator.query.style ⟨name, some .explode⟩ (.pairs entries) =
      (Style.form '?').assignments entries :=
    if_neg (by simpa [Value.shorten, Value.isEmpty] using listed)
  -- The equals sign of the first assignment is there in any case.
  obtain ⟨entry, more, rfl⟩ := List.exists_cons_of_ne_nil listed
  have here : (Style.form '?').assign entry.1 entry.2 ≠ [] := by simp [Style.assign]
  have visible : (Style.form '?').assignments (entry :: more) ≠ [] :=
    joinFields_ne_nil List.mem_cons_self here
  rw [expand_slot .query _ bound, written, if_neg visible]
  rfl

/-- A text that is not empty stands escaped behind the fragment operator's hash. -/
theorem expand_fragment {text : String} (bound : bindings.get? name = some (.scalar text))
    (filled : text ≠ "") :
    (Expression.mk .fragment [⟨name, none⟩]).expand bindings =
      '#' :: Escaping.reserved.apply text := by
  -- A text without a name has no other layout.
  have written : Slot.expand Operator.fragment.style ⟨name, none⟩ (.scalar text) =
      Escaping.reserved.apply text := rfl
  have visible : Escaping.reserved.apply text ≠ [] := escape_ne_nil filled
  rw [expand_slot .fragment _ bound, written, if_neg visible]
  rfl

end Expression

/-- A key of unreserved characters is plain. -/
theorem Form.isPlain_of_isUnreserved {key : String}
    (unreserved : ∀ c ∈ key.toList, Ascii.isUnreserved c) : IsPlain key := by
  -- None of the four characters with a meaning is unreserved.
  intro c member special
  have known := unreserved c member
  have listed : c = '&' ∨ c = '=' ∨ c = '+' ∨ c = '%' := by simpa using special
  rcases listed with rfl | rfl | rfl | rfl
  all_goals exact absurd known (by decide)

namespace Component

/-- A query keeps assignments under unreserved keys. -/
theorem inQuery_of_mem_assignments {lead : Char} {entries : List (String × String)}
    (keys : ∀ entry ∈ entries, ∀ c ∈ entry.1.toList, Ascii.isUnreserved c) :
    ∀ c ∈ (Style.form lead).assignments entries, inQuery true c := by
  -- A character is an ampersand, or it stands in a key or in an escaped value, or it is the equals
  -- sign between them.
  intro c member
  rcases mem_joinFields member with same | ⟨piece, written, inside⟩
  · rw [same]
    show inQuery true '&' = true
    decide
  · obtain ⟨entry, known, rfl⟩ := List.mem_map.mp written
    rcases List.mem_append.mp inside with key | behind
    · exact (kept_of_isUnreserved (.inl (keys entry known c key))).2.1
    · rcases List.mem_cons.mp behind with same | value
      · rw [same]
        decide
      · exact (kept_of_isUnreserved (Escaping.mem_apply_all value)).2.1

/-- A fragment keeps escaped texts under any policy. -/
theorem inFragment_of_mem_apply {escaping : Escaping} {text : String} :
    ∀ c ∈ escaping.apply text, inFragment c := by
  -- The safe characters of every policy are kept there too.
  intro c member
  have safe : escaping.safe.toList.all inFragment = true := by
    cases escaping <;> decide
  rcases mem_escape member with unreserved | listed | sign
  · exact (kept_of_isUnreserved (.inl unreserved)).2.2.1
  · exact List.all_eq_true.mp safe c listed
  · exact (kept_of_isUnreserved (.inr sign)).2.2.1

end Component

/-- The domain of the example is read as it stands. -/
theorem Authority.isReadFrom_example :
    (ofHost (some (.name "example.com"))).IsReadFrom "http" "example.com".toList := by
  -- What follows the host is handed on untouched, so the reading can be computed.
  have whole : "example.com".toList.any (Url.endsAuthority true) = false := by decide
  refine ⟨by decide, by decide, ?_, ?_⟩
  · intro c member
    exact Bool.eq_false_iff.mpr (List.any_eq_false.mp whole c member)
  · intro after
    rfl

/-- The template of a page has a literal and three expressions. -/
theorem Template.read_page :
    Template.read "http://example.com\x7b/path*\x7d\x7b?query*\x7d\x7b#frag\x7d" =
      ⟨[.literal "http://example.com", .expression ⟨.path, [⟨"path", some .explode⟩]⟩,
        .expression ⟨.query, [⟨"query", some .explode⟩]⟩,
        .expression ⟨.fragment, [⟨"frag", none⟩]⟩]⟩ := by
  -- The spans are what stands between the braces, and the literal has none.
  have fragment : Segment.IsCutting "\x7b#frag\x7d".toList [.span "#frag".toList] :=
    .span (by decide) (by decide) .nil rfl
  have query : Segment.IsCutting "\x7b?query*\x7d\x7b#frag\x7d".toList
      [.span "?query*".toList, .span "#frag".toList] :=
    .span (by decide) (by decide) fragment rfl
  have path : Segment.IsCutting "\x7b/path*\x7d\x7b?query*\x7d\x7b#frag\x7d".toList
      [.span "/path*".toList, .span "?query*".toList, .span "#frag".toList] :=
    .span (by decide) (by decide) query rfl
  have whole : Segment.IsCutting
      "http://example.com\x7b/path*\x7d\x7b?query*\x7d\x7b#frag\x7d".toList
      [.literal "http://example.com".toList, .span "/path*".toList, .span "?query*".toList,
        .span "#frag".toList] := by
    refine .literal (by decide) (by decide) ?_ path rfl
    intro before behind same
    have member : '{' ∈ "http://example.com".toList := by
      rw [same]
      simp
    exact absurd member (by decide)
  rw [Template.read, ← whole.eq_cut]
  rfl

/-- Escaped texts come back from the path segments of the URL that they make up. -/
theorem Url.map_decodeText?_pathSegments {scheme : String} {authority : Authority}
    {texts : List String} {query fragment : Option (List Char)}
    (segments : ∀ text ∈ texts, text ≠ "" ∧ text ≠ "." ∧ text ≠ "..") :
    (ofSettled scheme authority (texts.map Escaping.all.apply) query fragment).pathSegments.map
        (fun segment => Percent.decodeText? segment.toList) =
      texts.map fun text => some text.toList := by
  have settled : ∀ segment ∈ texts.map Escaping.all.apply, Path.IsSettled segment := by
    intro written member
    obtain ⟨text, known, rfl⟩ := List.mem_map.mp member
    exact Path.isSettled_apply (segments text known).2
  -- No escaped segment is empty, so all of them are listed.
  have visible : (texts.map Escaping.all.apply).filter (· ≠ []) =
      texts.map Escaping.all.apply := by
    rw [List.filter_eq_self]
    intro written member
    obtain ⟨text, known, rfl⟩ := List.mem_map.mp member
    have here : Escaping.all.apply text ≠ [] := escape_ne_nil (segments text known).1
    simpa using here
  rw [pathSegments_ofSettled settled, visible, List.map_map, List.map_map]
  refine List.map_congr_left ?_
  intro text _
  simp only [Function.comp_apply, String.toList_ofList, Escaping.decodeText?_apply]

section Page

variable {bindings : Bindings} {path : List String} {query : List (String × String)}
  {fragment : String}

/-- A page is written with the bound values, escaped, in their places. -/
theorem expand_page (segments : ∀ segment ∈ path, segment ≠ "") (listed : query ≠ [])
    (filled : fragment ≠ "") (boundPath : bindings.get? "path" = some (.list path))
    (boundQuery : bindings.get? "query" = some (.pairs query))
    (boundFragment : bindings.get? "frag" = some (.scalar fragment)) :
    expand "http://example.com\x7b/path*\x7d\x7b?query*\x7d\x7b#frag\x7d" bindings =
      .ofList ("http".toList ++ ':' :: ('/' :: '/' :: "example.com".toList ++
        Url.tailText (path.map Escaping.all.apply) (some ((Style.form '?').assignments query))
          (some (Escaping.reserved.apply fragment)))) := by
  -- The literal brings the scheme and the host, and each expression one component.
  rw [expand, Template.read_page, Template.expand]
  simp only [List.flatMap_cons, List.flatMap_nil, Part.expand,
    Expression.expand_path boundPath segments, Expression.expand_query boundQuery listed,
    Expression.expand_fragment boundFragment filled]
  simp [Url.tailText, marked]

/-- The components that are filled in are settled. -/
theorem isSettledTail_page (segments : ∀ segment ∈ path, segment ≠ "." ∧ segment ≠ "..")
    (keys : ∀ entry ∈ query, ∀ c ∈ entry.1.toList, Ascii.isUnreserved c) :
    Url.IsSettledTail (path.map Escaping.all.apply) (some ((Style.form '?').assignments query))
      (some (Escaping.reserved.apply fragment)) := by
  -- The segments, the query and the fragment are looked at one after the other.
  refine ⟨?_, ?_, ?_⟩
  · intro written member
    obtain ⟨segment, known, rfl⟩ := List.mem_map.mp member
    exact Path.isSettled_apply (segments segment known)
  · rintro text ⟨⟩
    exact Component.inQuery_of_mem_assignments keys
  · rintro text ⟨⟩
    exact Component.inFragment_of_mem_apply

/-- No value that is bound in a page can move a boundary between components: the URL has the host
of the template, and its segments, its query and its fragment decode to what was bound for them. -/
theorem components_parse_expand
    (segments : ∀ segment ∈ path, segment ≠ "" ∧ segment ≠ "." ∧ segment ≠ "..")
    (listed : query ≠ [])
    (keys : ∀ entry ∈ query, ∀ c ∈ entry.1.toList, Ascii.isUnreserved c)
    (filled : fragment ≠ "") (boundPath : bindings.get? "path" = some (.list path))
    (boundQuery : bindings.get? "query" = some (.pairs query))
    (boundFragment : bindings.get? "frag" = some (.scalar fragment)) :
    ∃ url written, Url.parse
        (expand "http://example.com\x7b/path*\x7d\x7b?query*\x7d\x7b#frag\x7d" bindings) = .ok url ∧
      url.hostText? = some "example.com" ∧
      url.pathSegments.map (fun segment => Percent.decodeText? segment.toList) =
        path.map (fun segment => some segment.toList) ∧
      Form.IsGrouping url.queryGroups query ∧
      url.fragment = some written ∧
      Percent.decodeText? written.toList = some fragment.toList := by
  -- Every component is settled, so reading changes none of them.
  have tail : Url.IsSettledTail (path.map Escaping.all.apply)
      (some ((Style.form '?').assignments query)) (some (Escaping.reserved.apply fragment)) :=
    isSettledTail_page (fun segment member => (segments segment member).2) keys
  have read := Url.read_of_settled (by decide) Authority.isReadFrom_example tail
  rw [← expand_page (fun segment member => (segments segment member).1) listed filled boundPath
    boundQuery boundFragment] at read
  refine ⟨.ofSettled "http" (.ofHost (some (.name "example.com"))) (path.map Escaping.all.apply)
    (some ((Style.form '?').assignments query)) (some (Escaping.reserved.apply fragment)),
    .ofList (Escaping.reserved.apply fragment), ?_, rfl, ?_, ?_, rfl, ?_⟩
  · exact congrArg (Except.mapError UrlError.unreadable) read
  · exact Url.map_decodeText?_pathSegments segments
  · -- The keys were written as they are, and the values read back.
    have plain : ∀ entry ∈ query, Form.IsPlain entry.1 := fun entry member =>
      Form.isPlain_of_isUnreserved (keys entry member)
    rw [Url.queryGroups_ofSettled, Form.parseQuery,
      Form.pairs_of_lists (Style.lists_assignments plain)]
    exact Form.isGrouping_group query
  · rw [String.toList_ofList, Escaping.decodeText?_apply]

end Page

/-- Values full of separators, escapes and dots stay in their components. -/
theorem components_parse_expand_of_separators :
    ∃ url written, Url.parse
        (expand "http://example.com\x7b/path*\x7d\x7b?query*\x7d\x7b#frag\x7d"
          ⟨[("path", .list ["a/b?c#d", "%2e", "é \\"]),
            ("query", .pairs [("k", "&=+%41#"), ("", "x y"), ("k", "")]),
            ("frag", .scalar "#%/?é ")]⟩) = .ok url ∧
      url.hostText? = some "example.com" ∧
      url.pathSegments.map (fun segment => Percent.decodeText? segment.toList) =
        ["a/b?c#d", "%2e", "é \\"].map (fun segment => some segment.toList) ∧
      Form.IsGrouping url.queryGroups [("k", "&=+%41#"), ("", "x y"), ("k", "")] ∧
      url.fragment = some written ∧ Percent.decodeText? written.toList = some "#%/?é ".toList := by
  -- Every value holds separators of the component that it is put into, and all three are bound.
  have keys : ∀ entry ∈ [("k", "&=+%41#"), ("", "x y"), ("k", "")],
      entry.1.toList.all Ascii.isUnreserved := by decide
  exact components_parse_expand (by decide) (by decide)
    (fun entry member => List.all_eq_true.mp (keys entry member)) (by decide) rfl rfl rfl

end Locator
