import Locator.Proofs.Url.Change
import Locator.Url.Parts

/-! Parts of URLs: a URL that was read is put together again from its own parts. -/

namespace Locator

namespace Url

/-- The URL with a port, if there is one to set. -/
def addPort (url : Url) (port : Option UInt16) : Except UrlError Url :=
  match port with
  | none => .ok url
  | some number => url.withPort number

/-- The URL with a query, if there is one to set. -/
def addQuery (url : Url) (query : Option String) : Url :=
  (query.map url.withQuery).getD url

/-- The URL with a fragment, if there is one to set. -/
def addFragment (url : Url) (fragment : Option String) : Url :=
  (fragment.map url.withFragment).getD url

end Url

/-- A URL is put together from its scheme and host, the port, the path, the query and the
fragment, in this order. -/
theorem UrlParts.toUrl_eq_ok_iff {parts : UrlParts} {url : Url} :
    parts.toUrl = .ok url ↔ ∃ start ported,
      Url.parse (parts.scheme ++ "://" ++ parts.host) = .ok start ∧
      start.addPort parts.port = .ok ported ∧
      url = ((ported.withPath parts.path).addQuery parts.query).addFragment parts.fragment := by
  -- A component that is not given is left alone, which adding nothing does too.
  have whole : parts.toUrl = (Url.parse (parts.scheme ++ "://" ++ parts.host)).bind fun start =>
      (start.addPort parts.port).map fun ported =>
        ((ported.withPath parts.path).addQuery parts.query).addFragment parts.fragment := by
    cases port : parts.port <;> cases query : parts.query <;> cases fragment : parts.fragment <;>
      simp [toUrl, port, query, fragment] <;> rfl
  rw [whole]
  cases parsed : Url.parse (parts.scheme ++ "://" ++ parts.host) with
  | error fault => simp [Except.bind]
  | ok start =>
    cases set : start.addPort parts.port with
    | error fault => simp [Except.bind, Except.map, set]
    | ok ported => simp [Except.bind, Except.map, set, eq_comm]

namespace Url

namespace IsSettled

variable {url : Url}

/-- A resolved path is taken as it is written. -/
theorem withPath_text (settled : url.IsSettled) {path : Path} (resolved : path.IsResolved) :
    url.withPath path.text = { url with path } := by
  obtain ⟨segments, filled, each, rfl⟩ := resolved
  have written : (Path.segmented (segments.map .ofList)).text.toList =
      segments.flatMap ('/' :: ·) := by
    simp [Path.text, List.flatMap_map]
  -- Nothing in the text is stripped, because paths keep visible characters only.
  have alone : IsSettledTail segments none none := ⟨each, by simp, by simp⟩
  have visible : IsVisible (segments.flatMap ('/' :: ·)) := by
    simpa [tailText, marked] using alone.isVisible
  rw [settled.withPath_eq, written, visible.strip_eq, Path.read_dropSlash each, if_neg filled]

/-- An encoded query is taken as it is written. -/
theorem addQuery_of_inQuery (settled : url.IsSettled) (absent : url.query = none)
    {query : Option String} (kept : ∀ text ∈ query, ∀ c ∈ text.toList, Component.inQuery true c) :
    url.addQuery query = { url with query } := by
  -- Nothing is stripped from a visible text, and nothing of it has to be encoded.
  cases query with
  | none =>
    simp only [addQuery, Option.map_none, Option.getD_none]
    rw [← absent]
  | some text =>
    have each := kept text rfl
    have visible := Component.isVisible_of_inQuery each
    simp only [addQuery, Option.map_some, Option.getD_some, Url.withQuery, encodeQuery,
      settled.special, visible.strip_eq, Component.encode_of_kept each, String.ofList_toList]

/-- An encoded fragment is taken as it is written. -/
theorem addFragment_of_inFragment (absent : url.fragment = none) {fragment : Option String}
    (kept : ∀ text ∈ fragment, ∀ c ∈ text.toList, Component.inFragment c) :
    url.addFragment fragment = { url with fragment } := by
  -- Here the scheme has no say in what is kept.
  cases fragment with
  | none =>
    simp only [addFragment, Option.map_none, Option.getD_none]
    rw [← absent]
  | some text =>
    have each := kept text rfl
    have visible := Component.isVisible_of_inFragment each
    simp only [addFragment, Option.map_some, Option.getD_some, Url.withFragment, encodeFragment,
      visible.strip_eq, Component.encode_of_kept each, String.ofList_toList]

/-- The port that a URL tells is kept as the one that its authority has. -/
theorem exists_port (settled : url.IsSettled) {authority : Authority}
    (named : url.authority = some authority) :
    ∃ number, url.port? = some number ∧ keptPort url.scheme (some number) = authority.port := by
  cases port : authority.port with
  | some number =>
    -- A port of its own is not the default one.
    refine ⟨number, by simp [port?, named, port], ?_⟩
    rw [keptPort, if_neg fun default =>
      (settled.of_authority named).port number port default.symm]
  | none =>
    obtain ⟨number, default⟩ := Option.isSome_iff_exists.mp settled.known
    exact ⟨number, by simp [port?, named, port, default], by rw [keptPort, if_pos default.symm]⟩

end IsSettled

/-- The URL of a scheme and a host alone. -/
def bare (scheme : String) (host : Host) : Url :=
  ⟨scheme, some (.ofHost (some host)), false, .segmented [""], none, none⟩

/-- A scheme and a host are read as the URL of the two. -/
theorem parse_bare {scheme : String} (known : Scheme.needsHost scheme) {host : Host}
    {text : List Char} (read : Host.readSpecial text = .ok host) (readBack : host.IsReadBack) :
    Url.parse (scheme ++ "://" ++ host.text) = .ok (bare scheme host) := by
  have special := Scheme.isSpecial_of_needsHost known
  have settled : (Authority.ofHost (some host)).IsSettled scheme :=
    ⟨by simp [Authority.ofHost], by simp [Authority.ofHost], ⟨host, rfl, text, read⟩,
      by simp [Authority.ofHost]⟩
  -- Nothing stands behind the authority, which is read as the root.
  have alone : IsSettledTail [] none none := ⟨by simp, by simp, by simp⟩
  have again := read_of_settled known (settled.isReadFrom_text special rfl readBack) alone
  have written : scheme ++ "://" ++ host.text = .ofList (scheme.toList ++ ':' ::
      ('/' :: '/' :: (Authority.ofHost (some host)).text.toList ++ tailText [] none none)) := by
    rw [← String.toList_inj]
    simp [Authority.text, Authority.credentials, Authority.ofHost, tailText, marked]
  rw [parse, written, again]
  rfl

/-- With its port, the scheme and the host of a URL without a user get the whole authority. -/
theorem IsSettled.exists_withPort_bare {url : Url} (settled : url.IsSettled) {authority : Authority}
    (named : url.authority = some authority) {host : Host} (hosted : authority.host = some host)
    (anonymous : authority.username = "" ∧ authority.password = "")
    (start : (bare url.scheme host).IsSettled) :
    ∃ number, url.port? = some number ∧ (bare url.scheme host).withPort number =
      .ok ⟨url.scheme, some authority, false, .segmented [""], none, none⟩ := by
  obtain ⟨number, told, port⟩ := settled.exists_port named
  refine ⟨number, told, ?_⟩
  -- Without a user, the host and the port make up the authority.
  have whole : (⟨"", "", some host, keptPort url.scheme (some number)⟩ : Authority) =
      authority := by
    obtain ⟨username, password⟩ := anonymous
    cases authority
    simp_all
  rw [start.withPort_eq rfl number, ← whole]
  rfl

/-- A settled URL without a user is put together again from its parts. -/
theorem IsSettled.toUrl_parts {url : Url} (settled : url.IsSettled)
    (anonymous : ∀ authority ∈ url.authority, authority.username = "" ∧ authority.password = "")
    (unmarked : ∀ label ∈ url.labels, ¬ Label.punycodeMark <+: label.toList) :
    url.parts.toUrl = .ok url := by
  obtain ⟨authority, named, kept⟩ := settled.authority
  obtain ⟨host, hosted, told, text, read⟩ := settled.exists_host named
  -- The scheme and the host are read first, and each part is set on what is settled already.
  have parsed : Url.parse (url.parts.scheme ++ "://" ++ url.parts.host) =
      .ok (bare url.scheme host) := by
    simpa [parts, told] using
      parse_bare settled.known read (isReadBack_of_labels told read unmarked)
  have start := isSettled_of_parse parsed settled.known
  obtain ⟨number, port, ported⟩ :=
    settled.exists_withPort_bare named hosted (anonymous authority named) start
  have portSettled := start.withPort ported
  have pathed : Url.withPath ⟨url.scheme, some authority, false, .segmented [""], none, none⟩
      url.pathText = ⟨url.scheme, some authority, false, url.path, none, none⟩ :=
    portSettled.withPath_text settled.path
  have pathSettled := pathed ▸ portSettled.withPath url.pathText
  have set : (bare url.scheme host).addPort url.parts.port =
      .ok ⟨url.scheme, some authority, false, .segmented [""], none, none⟩ := by
    rw [show url.parts.port = some number from port]
    exact ported
  refine UrlParts.toUrl_eq_ok_iff.mpr ⟨_, _, parsed, set, ?_⟩
  show _ = ((Url.withPath _ url.pathText).addQuery url.query).addFragment url.fragment
  rw [pathed, pathSettled.addQuery_of_inQuery rfl settled.query,
    addFragment_of_inFragment rfl settled.fragment]
  -- Every component is that of the URL now.
  rw [← named, ← settled.unguarded]

/-- A URL that was read and has no user is put together again from its parts, unless a label of its
host is in Punycode. -/
theorem toUrl_parts_of_parse {text : String} {url : Url} (read : Url.parse text = .ok url)
    (known : url.scheme ∈ ["http", "https", "ws", "wss", "ftp"])
    (anonymous : ∀ authority ∈ url.authority, authority.username = "" ∧ authority.password = "")
    (unmarked : ∀ label ∈ url.labels, ¬ "xn--".toList <+: label.toList) :
    url.parts.toUrl = .ok url :=
  (isSettled_of_parse read (Scheme.needsHost_of_mem known)).toUrl_parts anonymous unmarked

/-- An address with a port, empty segments, triplets, and a query and a fragment that are empty. -/
theorem toUrl_parts_of_address :
    ∃ url, Url.parse "HTTP:\\[2001:DB8:0:0::1]:8080//a//%41/b/%2e./?#" = .ok url ∧
      url.parts = ⟨"http", "[2001:db8::1]", some 8080, "//a//%41/", some "", some ""⟩ ∧
      url.parts.toUrl = .ok url := by
  -- The address is not written in its shortest form, and query and fragment are empty but present.
  have read : Url.parse "HTTP:\\[2001:DB8:0:0::1]:8080//a//%41/b/%2e./?#" =
      .ok ⟨"http", some ⟨"", "", some (.ipv6 ⟨[0x2001, 0xDB8, 0, 0, 0, 0, 0, 1], rfl⟩), some 8080⟩,
        false, .segmented ["", "a", "", "%41", ""], some "", some ""⟩ := rfl
  exact ⟨_, read, rfl, toUrl_parts_of_parse read (by decide) (by simp) (by decide)⟩

end Url

end Locator
