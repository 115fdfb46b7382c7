import Locator.Proofs.Text.Form
import Locator.Proofs.Url.Settled

/-! Changing URLs: every change keeps a URL settled, so whatever a run of changes leads to is read
back from its written form. -/

namespace Locator

namespace Form

/-- What the form encoding writes is kept in a query. -/
theorem inQuery_of_mem_encode {text : String} : ∀ c ∈ encode text, Component.inQuery true c := by
  intro c member
  rcases mem_encode member with kept | same | same
  · -- Apart from the asterisk, what is kept is unreserved.
    have unreserved : Ascii.isUnreserved c ∨ c = '*' := by
      simp only [isKept, Bool.or_eq_true, decide_eq_true_eq] at kept
      simp only [Ascii.isUnreserved, Bool.or_eq_true, decide_eq_true_eq]
      rcases kept with (((letter | star) | mark) | mark) | mark <;> simp [*]
    rcases unreserved with plain | star
    · exact (Component.kept_of_isUnreserved (.inl plain)).2.1
    · exact star ▸ (by decide)
  · exact same ▸ (by decide)
  · exact same ▸ (by decide)

/-- What pairs are rendered as is kept in a query. -/
theorem inQuery_of_mem_render {pairs : List (String × String)} :
    ∀ c ∈ (render pairs).toList, Component.inQuery true c := by
  -- The separators are kept as well as what stands between them.
  rw [render, String.toList_ofList]
  refine forall_mem_joinFields (by decide) ?_
  intro written listed c member
  obtain ⟨pair, -, rfl⟩ := List.mem_map.mp listed
  rcases List.mem_append.mp member with name | value
  · exact inQuery_of_mem_encode c name
  · rcases List.mem_cons.mp value with same | inside
    · exact same ▸ (by decide)
    · exact inQuery_of_mem_encode c inside

end Form

namespace Url

/-- One change of a URL. -/
inductive Change where
  /-- Another scheme. -/
  | scheme (text : String)
  /-- Another host. -/
  | host (text : String)
  /-- Another port. -/
  | port (number : UInt16)
  /-- Another path. -/
  | path (text : String)
  /-- Another query. -/
  | query (text : String)
  /-- Another fragment. -/
  | fragment (text : String)
  /-- Another text in the place of one path segment. -/
  | segment (index : Nat) (text : String)
  /-- Another text in the place of one label of the host. -/
  | label (index : Nat) (text : String)
  /-- A single value of one name in the query. -/
  | queryValue (name value : String)
  /-- A query of the given pairs. -/
  | queryPairs (pairs : List (String × String))
  deriving DecidableEq, Repr

/-- The URL after a change, or why there is none. -/
def Change.apply (url : Url) : Change → Except UrlError Url
  | scheme text => url.withScheme text
  | host text => url.withHost text
  | port number => url.withPort number
  | path text => .ok (url.withPath text)
  | query text => .ok (url.withQuery text)
  | fragment text => .ok (url.withFragment text)
  | segment index text => url.withPathSegment index text
  | label index text => url.withLabel index text
  | queryValue name value => .ok (url.withQueryValue name value)
  | queryPairs pairs => .ok (url.withQueryPairs pairs)

/-- The URL after several changes, one after another. -/
def changed (url : Url) (changes : List Change) : Except UrlError Url :=
  changes.foldlM Change.apply url

/-- A port that a URL keeps is not the default one of its scheme. -/
theorem ne_default_of_mem_keptPort {scheme : String} {port : Option UInt16} :
    ∀ number ∈ keptPort scheme port, Scheme.defaultPort? scheme ≠ some number := by
  -- A port is kept only when it is not the default one.
  intro number member same
  unfold keptPort at member
  split at member
  · cases member
  · rename_i other
    exact other (by rw [same]; exact member)

/-- Under a special scheme other than that of files a path is read below the root, behind one slash
at most. -/
theorem withPath_eq_read {url : Url} {authority : Authority} {segments : List String}
    (named : url.authority = some authority) (path : url.path = .segmented segments)
    (special : Scheme.isSpecial url.scheme = true) (remote : Scheme.isFile url.scheme = false)
    (text : String) :
    url.withPath text =
      { url with path := .read true (Path.dropSlash true (Component.strip text.toList)) } := by
  -- None of the exceptions of the setter holds here: the path is segmented and the scheme no file.
  simp [withPath, readPath, startsWithPath, path, named, remote, special]

/-- A host is taken from the part of a text that names one, and everything else stays. -/
theorem exists_of_withHost {url next : Url} {text : String}
    (changed : url.withHost text = .ok next) :
    ∃ part host, hostPart? text.toList = some part ∧
      Host.read (Scheme.isSpecial url.scheme) part = .ok host ∧
      next = { url with
        authority := some { url.authority.getD (Authority.ofHost none) with host } } := by
  unfold withHost at changed
  -- Every text that names no host is refused.
  split at changed
  · cases changed
  split at changed
  · cases changed
  split at changed
  · cases changed
  rename_i part found
  split at changed
  · cases changed
  rename_i host read
  cases changed
  refine ⟨part, host, found, read, ?_⟩
  cases url.authority <;> rfl

namespace IsSettled

variable {url next : Url}

/-- A special scheme that is not that of files may take the place of another. -/
theorem withScheme (settled : url.IsSettled) {text : String}
    (changed : url.withScheme text = .ok next) : next.IsSettled := by
  obtain ⟨authority, named, kept⟩ := settled.authority
  obtain ⟨host, hosted, -⟩ := kept.host
  unfold Url.withScheme at changed
  split at changed
  · rename_i scheme rest spelled
    split at changed
    · rename_i allowed
      cases changed
      -- With an authority in place the scheme of files is refused.
      simp only [accepts, settled.special, named, Option.isSome_some, Bool.and_true, Bool.and_eq_true,
        decide_eq_true_eq, Bool.not_eq_true'] at allowed
      obtain ⟨-, ⟨other, remote⟩, -⟩ := allowed
      -- The new scheme needs a host as the old one did, so the authority is kept.
      have known := Scheme.needsHost_of_isSpecial other remote
      refine ⟨known, ⟨{ authority with port := keptPort scheme authority.port }, ?_, ?_⟩,
        settled.unguarded, settled.path, settled.query, settled.fragment⟩
      · -- Only the port can change, where it is the default of the new scheme.
        simp [named, hosted, remote]
      · exact kept.withPort ne_default_of_mem_keptPort
    · cases changed
  · cases changed

/-- A host that is read may take the place of another. -/
theorem withHost (settled : url.IsSettled) {text : String}
    (changed : url.withHost text = .ok next) : next.IsSettled := by
  -- The new host was read under a special scheme, so there is one.
  obtain ⟨authority, named, kept⟩ := settled.authority
  obtain ⟨part, found, -, read, rfl⟩ := exists_of_withHost changed
  rw [settled.special] at read
  obtain ⟨host, rfl, spelled⟩ := Host.exists_of_read read
  rw [named]
  exact ⟨settled.known, ⟨_, rfl, kept.withHost spelled⟩, settled.unguarded, settled.path,
    settled.query, settled.fragment⟩

/-- Every port is taken, and the default one is not kept. -/
theorem withPort_eq (settled : url.IsSettled) {authority : Authority}
    (named : url.authority = some authority) (port : UInt16) :
    url.withPort port = .ok { url with
      authority := some { authority with port := keptPort url.scheme (some port) } } := by
  have hosted : authority.host.isSome := by
    obtain ⟨host, found, -⟩ := settled.exists_host named
    rw [found]
    rfl
  simp only [Url.withPort, named, hosted, settled.remote, Bool.not_false, Bool.and_self, if_true]
  split
  · -- A URL that has the port already is not changed.
    rename_i already
    rw [already, ← named]
  · rw [settled.unguarded]

/-- A port may take the place of another. -/
theorem withPort (settled : url.IsSettled) {port : UInt16}
    (changed : url.withPort port = .ok next) : next.IsSettled := by
  -- Nothing but the port changes, and it is kept only when it is not the default one.
  obtain ⟨authority, named, kept⟩ := settled.authority
  rw [settled.withPort_eq named] at changed
  cases changed
  exact ⟨settled.known, ⟨_, rfl, kept.withPort ne_default_of_mem_keptPort⟩, settled.unguarded,
    settled.path, settled.query, settled.fragment⟩

/-- A path is read below the root, behind one slash at most. -/
theorem withPath_eq (settled : url.IsSettled) (text : String) :
    url.withPath text =
      { url with path := .read true (Path.dropSlash true (Component.strip text.toList)) } := by
  -- A settled URL has an authority and a segmented path.
  obtain ⟨authority, named, -⟩ := settled.authority
  obtain ⟨segments, -, -, path⟩ := settled.path
  exact withPath_eq_read named path settled.special settled.remote text

/-- A text that is read as a path may take the place of another. -/
theorem withPath (settled : url.IsSettled) (text : String) : (url.withPath text).IsSettled := by
  -- The new path is resolved, and nothing else changes.
  rw [settled.withPath_eq]
  exact ⟨settled.known, settled.authority, settled.unguarded, Path.isResolved_read _,
    settled.query, settled.fragment⟩

/-- An encoded text may take the place of the query. -/
theorem withQuery (settled : url.IsSettled) (text : String) : (url.withQuery text).IsSettled := by
  -- The new query is encoded, and nothing else changes.
  refine ⟨settled.known, settled.authority, settled.unguarded, settled.path, ?_, settled.fragment⟩
  intro written member
  obtain rfl := Option.some.inj member
  exact inQuery_of_mem_encodeQuery settled.special

/-- An encoded text may take the place of the fragment. -/
theorem withFragment (settled : url.IsSettled) (text : String) :
    (url.withFragment text).IsSettled := by
  -- The new fragment is encoded, and nothing else changes.
  refine ⟨settled.known, settled.authority, settled.unguarded, settled.path, settled.query, ?_⟩
  intro written member
  obtain rfl := Option.some.inj member
  exact inFragment_of_mem_encodeFragment

/-- Rendered pairs may take the place of the query. -/
theorem withQueryPairs (settled : url.IsSettled) (pairs : List (String × String)) :
    (url.withQueryPairs pairs).IsSettled := by
  -- The new query is written by the form encoder, and nothing else changes.
  refine ⟨settled.known, settled.authority, settled.unguarded, settled.path, ?_, settled.fragment⟩
  intro written member
  obtain rfl := Option.some.inj member
  exact Form.inQuery_of_mem_render

/-- Every change keeps a URL settled. -/
theorem apply (settled : url.IsSettled) {change : Change}
    (changed : change.apply url = .ok next) : next.IsSettled := by
  cases change with
  -- Setting one component keeps the URL settled, by the lemma on that component.
  | scheme text => exact settled.withScheme changed
  | host text => exact settled.withHost changed
  | port number => exact settled.withPort changed
  | path text =>
    cases changed
    exact settled.withPath text
  | query text =>
    cases changed
    exact settled.withQuery text
  | fragment text =>
    cases changed
    exact settled.withFragment text
  | segment index text =>
    -- A segment is replaced by setting the path that the segments make up.
    simp only [Change.apply, withPathSegment] at changed
    split at changed
    · cases changed
      exact settled.withPath _
    · cases changed
  | label index text =>
    -- A label is replaced by setting the host that the labels make up.
    simp only [Change.apply, withLabel] at changed
    split at changed
    · exact settled.withHost changed
    · cases changed
  -- Either way of changing pairs writes the query anew.
  | queryValue name value =>
    cases changed
    exact settled.withQueryPairs _
  | queryPairs pairs =>
    cases changed
    exact settled.withQueryPairs pairs

/-- Every run of changes keeps a URL settled. -/
theorem changed (settled : url.IsSettled) {changes : List Change}
    (reached : url.changed changes = .ok next) : next.IsSettled := by
  -- The induction is on the changes to come, for all URLs that they may start from.
  induction changes generalizing url with
  | nil =>
    cases reached
    exact settled
  | cons change rest ih =>
    rw [Url.changed, List.foldlM_cons] at reached
    cases first : change.apply url with
    | error fault => simp [first, bind, Except.bind] at reached
    | ok between =>
      rw [first] at reached
      exact ih (settled.apply first) reached

end IsSettled

/-- Whatever changes a URL goes through, it is read back from its written form as the same URL,
unless a label of its host is in Punycode. -/
theorem parse_text_of_changed {text : String} {start url : Url} {changes : List Change}
    (read : Url.parse text = .ok start)
    (known : start.scheme ∈ ["http", "https", "ws", "wss", "ftp"])
    (reached : start.changed changes = .ok url)
    (unmarked : ∀ label ∈ url.labels, ¬ "xn--".toList <+: label.toList) :
    Url.parse url.text = .ok url := by
  -- Reading settles the URL, every change keeps it settled, and a settled URL is read back.
  have settled := isSettled_of_parse read (Scheme.needsHost_of_mem known)
  exact (settled.changed reached).parse_text unmarked

/-- A URL with all its parts, after a change of every kind. -/
theorem parse_text_of_changed_throughout :
    ∃ start url, Url.parse "WS://u:p@EXAMPLE.com:443/a/./%2E%2e/b?x='#é" = .ok start ∧
      start.changed [.scheme "wss", .host "A.b.c:1", .label 1 "xy", .port 8080,
        .path "d\\..\\e f/%2e", .segment 0 "g/h", .queryPairs [("k", "1"), ("k", "&")],
        .query "a='b", .queryValue "q" "é &", .fragment "<é>"] = .ok url ∧
      url.text = "wss://u:p@a.xy.c:8080/g/h/?a=%27b&q=%C3%A9+%26#%3C%C3%A9%3E" ∧
      Url.parse url.text = .ok url := by
  -- The port 443 is not the default one at first, and is dropped as such under the new scheme.
  have read : Url.parse "WS://u:p@EXAMPLE.com:443/a/./%2E%2e/b?x='#é" =
      .ok ⟨"ws", some ⟨"u", "p", some (.name "example.com"), some 443⟩, false,
        .segmented ["b"], some "x=%27", some "%C3%A9"⟩ := rfl
  have reached : Url.changed ⟨"ws", some ⟨"u", "p", some (.name "example.com"), some 443⟩, false,
        .segmented ["b"], some "x=%27", some "%C3%A9"⟩
      [.scheme "wss", .host "A.b.c:1", .label 1 "xy", .port 8080, .path "d\\..\\e f/%2e",
        .segment 0 "g/h", .queryPairs [("k", "1"), ("k", "&")], .query "a='b",
        .queryValue "q" "é &", .fragment "<é>"] =
      .ok ⟨"wss", some ⟨"u", "p", some (.name "a.xy.c"), some 8080⟩, false,
        .segmented ["g", "h", ""], some "a=%27b&q=%C3%A9+%26", some "%3C%C3%A9%3E"⟩ := rfl
  exact ⟨_, _, read, reached, rfl, parse_text_of_changed read (by decide) reached (by decide)⟩

end Url

end Locator
