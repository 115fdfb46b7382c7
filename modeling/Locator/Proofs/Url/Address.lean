import Locator.Proofs.Url.Parts
import Locator.Proofs.Url.Reachable

/-! Addresses: whether a text spells a query, a fragment or a port can be seen without reading it. A
URL that is put together has only what its parts give, as long as the scheme and the host, which are
read as one text, spell nothing more. -/

namespace Locator

/-- A digit string that denotes a port. -/
structure Authority.IsPort (digits : List Char) (port : UInt16) : Prop where
  /-- There is a digit. -/
  filled : digits ≠ []
  /-- There is nothing but digits. -/
  decimal : ∀ c ∈ digits, c.isDigit
  /-- They have the value of the port. -/
  value : Ascii.decimalValue digits = port.toNat

namespace Authority

/-- A port is read from all digits that a text starts with, and a backslash may follow. -/
theorem exists_of_readPort {scheme : String} {text remaining : List Char} {port : Option UInt16}
    (read : readPort scheme text = .ok (port, remaining)) :
    ∃ digits, text = digits ++ remaining ∧ (∀ c ∈ remaining.head?, c = '\\') ∧
      ∀ number ∈ port, IsPort digits number := by
  -- The digits are those that the text starts with, whatever becomes of the port.
  have whole : text = text.takeWhile Char.isDigit ++ text.dropWhile Char.isDigit :=
    List.takeWhile_append_dropWhile.symm
  unfold readPort at read
  simp only at read
  split at read
  · cases read
  rename_i small
  split at read
  · cases read
  rename_i follows
  have ends : ∀ c ∈ (text.dropWhile Char.isDigit).head?, c = '\\' := by
    intro c first
    refine Decidable.byContradiction fun other => follows ⟨?_, ?_⟩
    · rintro none
      simp [none] at first
    · rw [first]
      simpa using other
  split at read
  · -- No port is kept of no digits, nor of those of the default one.
    cases read
    exact ⟨_, whole, ends, by simp⟩
  · rename_i kept
    cases read
    refine ⟨_, whole, ends, ?_⟩
    rintro number ⟨⟩
    refine ⟨fun none => kept (.inl none), List.all_eq_true.mp List.all_takeWhile, ?_⟩
    exact (UInt16.toNat_ofNat_of_lt' (by simpa [UInt16.size, Nat.lt_succ_iff] using small)).symm

/-- What stands behind the user is the end of the text. -/
theorem exists_splitUserinfo (text : List Char) :
    ∃ front, text = front ++ (splitUserinfo text).2 := by
  unfold splitUserinfo
  split
  · exact ⟨[], rfl⟩
  · rename_i after before found
    -- The text was searched for its last at sign from behind.
    have whole := congrArg List.reverse (splitFirst_eq_some_iff.mp found).2
    rw [List.reverse_reverse] at whole
    exact ⟨before.reverse ++ ['@'], by simp [whole]⟩

/-- A host and what follows it make up the text. -/
theorem splitHost_append_eq (bracketed : Bool) (text : List Char) :
    (splitHost bracketed text).1 ++ (splitHost bracketed text).2 = text := by
  -- The induction is on the text, for an open bracket and for none.
  induction text generalizing bracketed with
  | nil => rfl
  | cons c rest ih =>
    rw [splitHost]
    split
    · rfl
    · simp [ih]

/-- Where the port of an authority that was read stands: behind a colon, in front of what is left
for the path. -/
theorem exists_port_of_read {scheme : String} {text after rest : List Char} {authority : Authority}
    (read : Authority.read scheme text after = .ok (authority, rest)) :
    ∃ front remaining, text = front ++ remaining ∧ rest = remaining ++ after ∧
      ∀ number ∈ authority.port, (∀ c ∈ remaining.head?, c = '\\') ∧
        ∃ body digits, front = body ++ ':' :: digits ∧ IsPort digits number := by
  obtain ⟨hostText, behind, remaining, cut, -, -, rest, counted⟩ := exists_of_read read
  obtain ⟨user, whole⟩ := exists_splitUserinfo text
  have inner := splitHost_append_eq false (splitUserinfo text).2
  rw [cut] at inner
  rw [← inner] at whole
  -- Without a port all of the text counts as what stands in front of the path.
  rcases counted with ⟨none, rfl⟩ | ⟨digitText, rfl, counted⟩
  · exact ⟨user ++ hostText, remaining, by simp [whole], rest, by simp [none]⟩
  · obtain ⟨digits, rfl, ends, port⟩ := exists_of_readPort counted
    exact ⟨user ++ hostText ++ ':' :: digits, remaining, by simp [whole], rest,
      fun number member => ⟨ends, user ++ hostText, digits, rfl, port number member⟩⟩

end Authority

namespace Url

/-- Whether a URL has a query and a fragment exactly where a text shows their marks: a hash, and a
question mark in front of any hash. -/
structure IsShownBy (url : Url) (text : List Char) : Prop where
  /-- The query. -/
  query : url.query.isSome ↔ '?' ∈ text.takeWhile (· ≠ '#')
  /-- The fragment. -/
  fragment : url.fragment.isSome ↔ '#' ∈ text

variable {url : Url} {text : List Char}

/-- There is a query where a question mark stands in front of any hash, and a fragment where there
is a hash. -/
theorem isSome_splitTail_iff (text : List Char) :
    ((splitTail text).2.1.isSome ↔ '?' ∈ text.takeWhile (· ≠ '#')) ∧
      ((splitTail text).2.2.isSome ↔ '#' ∈ text) := by
  -- The fragment is cut off first, so the query is looked for in front of it.
  unfold splitTail
  cases hash : splitFirst '#' text with
  | none =>
    -- Without a number sign the query is looked for in the whole text.
    have absent := splitFirst_eq_none_iff.mp hash
    have all : text.takeWhile (· ≠ '#') = text := by
      simpa using takeWhile_append_of_not_mem absent []
    rw [all, ← isSome_splitFirst_iff, ← isSome_splitFirst_iff, hash]
    dsimp only
    cases splitFirst '?' text <;> simp
  | some halves =>
    obtain ⟨before, after⟩ := halves
    obtain ⟨absent, rfl⟩ := splitFirst_eq_some_iff.mp hash
    -- With one it is looked for in what stands before the first.
    have front : (before ++ '#' :: after).takeWhile (· ≠ '#') = before := by
      rw [takeWhile_append_of_not_mem absent]
      simp
    rw [front, ← isSome_splitFirst_iff, ← isSome_splitFirst_iff, hash]
    dsimp only
    cases splitFirst '?' before <;> simp

/-- A query and a fragment that a text was cut into are shown by it. -/
theorem isShownBy_of_splitTail (query : url.query.isSome = (splitTail text).2.1.isSome)
    (fragment : url.fragment.isSome = (splitTail text).2.2.isSome) : url.IsShownBy text :=
  ⟨by rw [query, (isSome_splitTail_iff text).1], by rw [fragment, (isSome_splitTail_iff text).2]⟩

/-- A part in front without a tail changes nothing. -/
theorem IsShownBy.append {front : List Char} (bare : HasNoTail front)
    (shown : url.IsShownBy text) : url.IsShownBy (front ++ text) := by
  -- The front shows neither sign, so both are looked for in the text behind.
  have question : '?' ∉ front := fun member => (bare '?' member).1 rfl
  have hash : '#' ∉ front := fun member => (bare '#' member).2 rfl
  refine ⟨?_, ?_⟩
  · rw [takeWhile_append_of_not_mem hash, List.mem_append, shown.query]
    simp [question]
  · rw [List.mem_append, shown.fragment]
    simp [hash]

/-- Tabs and line breaks are no marks. -/
theorem isShownBy_strip_iff : url.IsShownBy (Component.strip text) ↔ url.IsShownBy text := by
  -- Neither sign is among the characters that are left out.
  have query : '?' ∈ (Component.strip text).takeWhile (· ≠ '#') ↔
      '?' ∈ text.takeWhile (· ≠ '#') := by
    rw [Component.takeWhile_strip (by decide), Component.mem_strip_iff (by decide)]
  have fragment : '#' ∈ Component.strip text ↔ '#' ∈ text := Component.mem_strip_iff (by decide)
  exact ⟨fun shown => ⟨shown.query.trans query, shown.fragment.trans fragment⟩,
    fun shown => ⟨shown.query.trans query.symm, shown.fragment.trans fragment.symm⟩⟩

/-- What ends an authority under any scheme ends it under special ones. -/
theorem endsAuthority_special {special : Bool} {c : Char} (ends : endsAuthority special c) :
    endsAuthority true c := by
  -- A backslash is the one character that only special schemes take for a slash.
  cases special with
  | true => exact ends
  | false =>
    simp only [endsAuthority, Path.isSlash, Bool.false_and, Bool.or_false, Bool.or_eq_true,
      decide_eq_true_eq] at ends
    rcases ends with (same | same) | same <;> exact same ▸ (by decide)

/-- What stands in front of the end of an authority does not end it, and what follows it does. -/
theorem takeWhile_endsAuthority (special : Bool) (text : List Char) :
    (∀ c ∈ text.takeWhile fun c => !endsAuthority special c, endsAuthority special c = false) ∧
      ∀ c ∈ (text.dropWhile fun c => !endsAuthority special c).head?, endsAuthority true c := by
  refine ⟨fun c member => ?_, fun c first => ?_⟩
  · simpa using List.all_eq_true.mp List.all_takeWhile c member
  -- What ends an authority under any scheme ends it under a special one.
  · have stops := List.head?_dropWhile_not (fun c => !endsAuthority special c) text
    rw [Option.mem_def.mp first] at stops
    have own : endsAuthority special c := by simpa using stops
    exact endsAuthority_special own

/-- Whether a text starts with an authority that ends in a port. -/
def StartsWithPort (special : Bool) (text : List Char) (port : UInt16) : Prop :=
  ∃ body digits rest, text = body ++ ':' :: digits ++ rest ∧
    (∀ c ∈ body, endsAuthority special c = false) ∧ Authority.IsPort digits port ∧
    ∀ c ∈ rest.head?, endsAuthority true c

section Readers

variable {scheme : String}

/-- What is read behind two slashes is shown by the text, and so is its port. -/
theorem isShownBy_of_readWithAuthority (read : readWithAuthority scheme text = .ok url) :
    url.IsShownBy text ∧
      ∀ port ∈ url.ownPort?, StartsWithPort (Scheme.isSpecial scheme) text port := by
  obtain ⟨inner, ends⟩ := takeWhile_endsAuthority (Scheme.isSpecial scheme) text
  have bare := hasNoTail_takeWhile (Scheme.isSpecial scheme) text
  have whole := List.takeWhile_append_dropWhile (l := text)
    (p := fun c => !endsAuthority (Scheme.isSpecial scheme) c)
  obtain ⟨authority, after, found, rfl⟩ := exists_of_readWithAuthority read
  -- From here on it only matters that the text was cut where the authority ends.
  generalize text.takeWhile (fun c => !endsAuthority (Scheme.isSpecial scheme) c) = named at *
  generalize text.dropWhile (fun c => !endsAuthority (Scheme.isSpecial scheme) c) = tail at *
  subst whole
  obtain ⟨front, remaining, rfl, rfl, ports⟩ := Authority.exists_port_of_read found
  refine ⟨?_, fun port member => ?_⟩
  · -- The query and the fragment are cut off what follows the port.
    rw [List.append_assoc]
    exact (isShownBy_of_splitTail (by simp) (by simp)).append (List.forall_mem_append.mp bare).1
  · obtain ⟨follows, body, digits, rfl, isPort⟩ := ports port member
    refine ⟨body, digits, remaining ++ tail, by simp, fun c known => inner c (by simp [known]),
      isPort, ?_⟩
    -- A backslash ends the port, or else what ends the authority.
    cases remaining with
    | nil => exact ends
    | cons d more =>
      intro c first
      rw [follows c first]
      decide

/-- What is read as a file URL is shown by the text, and it has no port. -/
theorem isShownBy_of_readFile (read : readFile text = .ok url) :
    url.IsShownBy text ∧ url.ownPort? = none := by
  -- The front holds neither sign, and a file has no port.
  obtain ⟨front, after, host, rooted, path, rfl, bare, -, rfl⟩ := exists_of_readFile read
  exact ⟨(isShownBy_of_splitTail (by simp) (by simp)).append bare, rfl⟩

end Readers

/-- What is seen of a text that is read as a URL: no blanks around it, and no tabs and line breaks
in it. -/
def seen (text : String) : List Char :=
  Component.strip (Ascii.trim Ascii.isControlOrSpace text.toList)

/-- Whether a text spells a port under a scheme: behind the name of the scheme and the slashes there
is an authority that ends in the port. A file URL has none. -/
def SpellsPort (scheme : String) (text : List Char) (port : UInt16) : Prop :=
  Scheme.isFile scheme = false ∧ ∃ name slashes rest, text = name ++ ':' :: (slashes ++ rest) ∧
    (∀ c ∈ name, Scheme.isCharacter c) ∧
    (slashes = ['/', '/'] ∨ Scheme.isSpecial scheme ∧ ∀ c ∈ slashes, Path.isSlash true c) ∧
    StartsWithPort (Scheme.isSpecial scheme) rest port

/-- What is read from a text is shown by what is seen of it, and so is its port. -/
theorem isShownBy_of_parse {text : String} (read : Url.parse text = .ok url) :
    url.IsShownBy (seen text) ∧ ∀ port ∈ url.ownPort?, SpellsPort url.scheme (seen text) port := by
  obtain ⟨name, rest, scheme, whole, spelled, behind⟩ := exists_of_parse read
  obtain ⟨named, -⟩ := Scheme.eq_of_split? spelled
  have start : seen text = Component.strip name ++ [':'] ++ Component.strip rest := by
    simp [seen, whole, Component.strip, Ascii.isTabOrNewline]
  -- No tail starts in the name of the scheme or the colon behind it.
  have bare : HasNoTail (Component.strip name ++ [':']) :=
    (hasNoTail_of_class (by decide) (by decide) named).append (by simp [HasNoTail])
  rw [start]
  rcases cases_of_readAfterScheme behind with ⟨-, found⟩ |
    ⟨remote, slashes, inner, cut, kinds, found⟩ | ⟨-, same⟩
  · -- A file URL is read from the text with its tabs and line breaks.
    obtain ⟨shown, none⟩ := isShownBy_of_readFile found
    exact ⟨(isShownBy_strip_iff.mpr shown).append bare, by simp [none]⟩
  · obtain ⟨shown, ports⟩ := isShownBy_of_readWithAuthority found
    have slashed : HasNoTail slashes := by
      rcases kinds with rfl | ⟨-, each⟩
      · simp [HasNoTail]
      · exact hasNoTail_of_class (by decide) (by decide) each
    have scheme_eq : url.scheme = scheme := by
      obtain ⟨_, _, -, rfl⟩ := exists_of_readWithAuthority found
      rfl
    rw [scheme_eq, cut]
    exact ⟨(shown.append slashed).append bare, fun port member => ⟨remote, Component.strip name,
      slashes, inner, by simp, named, kinds, ports port member⟩⟩
  · subst same
    exact ⟨(isShownBy_of_splitTail (by simp [readPlain]) (by simp [readPlain])).append bare,
      by simp [ownPort?, readPlain]⟩

/-- A URL that is put together was read from its scheme and host and then changed. -/
theorem isReachable_of_toUrl {parts : UrlParts} (built : parts.toUrl = .ok url) :
    url.IsReachable := by
  obtain ⟨start, ported, read, added, rfl⟩ := UrlParts.toUrl_eq_ok_iff.mp built
  -- The changes are the port, if any, the path, and the query and the fragment, if any.
  let changes := (parts.port.map Change.port).toList ++ Change.path parts.path ::
    ((parts.query.map Change.query).toList ++ (parts.fragment.map Change.fragment).toList)
  refine ⟨_, start, changes, read, ?_⟩
  have first : start.changed (parts.port.map Change.port).toList = .ok ported := by
    rw [← added]
    cases parts.port with
    | none => rfl
    | some number => exact changed_singleton start (.port number)
  rw [changed, List.foldlM_append]
  change (start.changed _ >>= fun next => next.changed _) = _
  rw [first]
  cases parts.query <;> cases parts.fragment <;> rfl

/-- With a port that is added a URL tells that port, and else the one that it told before. -/
theorem addPort_keeps {ported : Url} {port : Option UInt16} (added : url.addPort port = .ok ported) :
    ported.scheme = url.scheme ∧ ported.query = url.query ∧ ported.fragment = url.fragment ∧
      ported.port? = port.or url.port? := by
  -- A port that is set is told even if it is the default one and not kept.
  cases port with
  | none =>
    cases added
    exact ⟨rfl, rfl, rfl, rfl⟩
  | some number =>
    obtain ⟨authority, guarded, -, -, same⟩ := exists_of_withPort added
    subst same
    exact ⟨rfl, rfl, rfl, port?_of_keptPort rfl⟩

/-- A URL that is put together has a query and a fragment where the parts or what was read first do.
-/
theorem addQuery_addFragment_keeps (url : Url) (query fragment : Option String) :
    ((url.addQuery query).addFragment fragment).scheme = url.scheme ∧
      ((url.addQuery query).addFragment fragment).port? = url.port? ∧
      ((url.addQuery query).addFragment fragment).query.isSome =
        (query.isSome || url.query.isSome) ∧
      ((url.addQuery query).addFragment fragment).fragment.isSome =
        (fragment.isSome || url.fragment.isSome) := by
  -- A component that is not given is left as it was, and none of them touches the scheme or the
  -- port.
  cases query <;> cases fragment <;>
    simp [addQuery, addFragment, withQuery, withFragment, port?]

/-- A URL that is put together has a query and a fragment exactly if the parts do, and the port that
they give or else the default one, unless the scheme and the host spell more: as they are read as
one text, its marks and the port in it count. -/
theorem toUrl_carries_parts {parts : UrlParts} (built : parts.toUrl = .ok url)
    (query : '?' ∈ (seen (parts.scheme ++ "://" ++ parts.host)).takeWhile (· ≠ '#') →
      parts.query.isSome)
    (fragment : '#' ∈ seen (parts.scheme ++ "://" ++ parts.host) → parts.fragment.isSome)
    (port : ∀ number, SpellsPort url.scheme (seen (parts.scheme ++ "://" ++ parts.host)) number →
      parts.port.isSome ∨ Scheme.defaultPort? url.scheme = some number) :
    url.query.isSome = parts.query.isSome ∧ url.fragment.isSome = parts.fragment.isSome ∧
      url.port? = parts.port.or (Scheme.defaultPort? url.scheme) := by
  obtain ⟨start, ported, read, added, same⟩ := UrlParts.toUrl_eq_ok_iff.mp built
  obtain ⟨shown, spelled⟩ := isShownBy_of_parse read
  obtain ⟨kept, ownQuery, ownFragment, told⟩ := addPort_keeps added
  obtain ⟨path, pathed⟩ := effect_withPath ported parts.path
  obtain ⟨scheme, ownPort, hasQuery, hasFragment⟩ :=
    addQuery_addFragment_keeps (ported.withPath parts.path) parts.query parts.fragment
  rw [← same, pathed] at scheme ownPort hasQuery hasFragment
  have alike : url.scheme = start.scheme := scheme.trans kept
  refine ⟨?_, ?_, ?_⟩
  · -- A query that was read shows its mark in the scheme and the host.
    rw [hasQuery, ownQuery, Bool.or_eq_left_iff_imp]
    exact fun held => query (shown.query.mp held)
  · rw [hasFragment, ownFragment, Bool.or_eq_left_iff_imp]
    exact fun held => fragment (shown.fragment.mp held)
  · have unchanged : url.port? = ported.port? := ownPort
    rw [unchanged, told, port?_eq, ← alike]
    cases given : parts.port with
    | some number => rfl
    | none =>
      -- A port that was read is the default one.
      cases own : start.ownPort? with
      | none => rfl
      | some number =>
        rcases port number (alike ▸ spelled number own) with other | default
        · simp [given] at other
        · rw [default]
          rfl

/-- A port that the parts give counts before one that the host spells, and a query that they give
before any mark of one. Where neither spells a port it is the default one. -/
theorem toUrl_carries_parts_of_host :
    (∃ url, UrlParts.toUrl ⟨"WSS", "u:p@[::1]:81?a ", some 443, "/b#c", some "", none⟩ = .ok url ∧
      url.query.isSome = true ∧ url.fragment.isSome = false ∧ url.port? = some 443) ∧
    ∃ url, UrlParts.toUrl ⟨"ftp", "h", none, "?", none, some "b"⟩ = .ok url ∧
      url.query.isSome = false ∧ url.fragment.isSome = true ∧ url.port? = some 21 := by
  -- The first host holds credentials, a port and a query of its own.
  have first : UrlParts.toUrl ⟨"WSS", "u:p@[::1]:81?a ", some 443, "/b#c", some "", none⟩ =
      .ok ⟨"wss", some ⟨"u", "p", some (.ipv6 ⟨[0, 0, 0, 0, 0, 0, 0, 1], rfl⟩), none⟩, false,
        .segmented ["b%23c"], some "", none⟩ := rfl
  have second : UrlParts.toUrl ⟨"ftp", "h", none, "?", none, some "b"⟩ =
      .ok ⟨"ftp", some (.ofHost (some (.name "h"))), false, .segmented ["%3F"], none, some "b"⟩ := rfl
  -- A port would need a second colon.
  have single (port : UInt16) : ¬ SpellsPort "ftp" (seen ("ftp" ++ "://" ++ "h")) port := by
    rintro ⟨-, name, slashes, rest, whole, -, -, body, digits, back, same, -⟩
    have colons := congrArg (List.count ':') whole
    simp only [same, List.count_append, List.count_cons_self] at colons
    have one : (seen ("ftp" ++ "://" ++ "h")).count ':' = 1 := by decide
    omega
  obtain ⟨query, fragment, port⟩ := toUrl_carries_parts first (fun _ => rfl) (by decide)
    fun _ _ => .inl rfl
  obtain ⟨noQuery, named, default⟩ := toUrl_carries_parts second (by decide) (fun _ => rfl)
    fun number spelled => absurd spelled (single number)
  exact ⟨⟨_, first, query, fragment, port⟩, _, second, noQuery, named, default⟩

/-- A host that holds a port and marks brings them into a URL whose parts give none. -/
theorem toUrl_carries_more_than_parts :
    ∃ url, (UrlParts.ofHost "h:81?x#y").toUrl = .ok url ∧
      (UrlParts.ofHost "h:81?x#y").port = none ∧ (UrlParts.ofHost "h:81?x#y").query = none ∧
      (UrlParts.ofHost "h:81?x#y").fragment = none ∧
      url.port? = some 81 ∧ url.query = some "x" ∧ url.fragment = some "y" :=
  ⟨_, rfl, rfl, rfl, rfl, rfl, rfl, rfl⟩

end Url

end Locator
