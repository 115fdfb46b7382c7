import Locator.Proofs.Url.Authority
import Locator.Proofs.Url.Path.Resolving

/-! Settled URLs: what reading a text under a scheme with a host makes of it, and that the written
form of it is read as the same URL. -/

namespace Locator

/-- The web schemes and that of file transfer need a host. -/
theorem Scheme.needsHost_of_mem {scheme : String}
    (member : scheme ∈ ["http", "https", "ws", "wss", "ftp"]) : needsHost scheme := by
  -- The five schemes are gone through.
  rw [needsHost_iff]
  simp only [List.mem_cons, List.not_mem_nil, or_false] at member ⊢
  rcases member with same | same | same | same | same <;> simp [same]

/-- A special scheme other than that of files needs a host. -/
theorem Scheme.needsHost_of_isSpecial {scheme : String} (special : isSpecial scheme = true)
    (remote : isFile scheme = false) : needsHost scheme := by
  -- The special schemes are the five and the one of files.
  simpa [isSpecial, needsHost, remote] using special

namespace Url

variable {url : Url}

/-- A URL under a scheme that needs a host, none of whose components has to be changed. -/
structure IsSettled (url : Url) : Prop where
  /-- The scheme needs a host. -/
  known : Scheme.needsHost url.scheme
  /-- There is an authority, and it is settled. -/
  authority : ∃ authority, url.authority = some authority ∧ authority.IsSettled url.scheme
  /-- Behind an authority the path needs no guard. -/
  unguarded : url.guarded = false
  /-- The dots of the path are resolved and its characters encoded. -/
  path : url.path.IsResolved
  /-- The query is encoded under the rules of special schemes. -/
  query : ∀ text ∈ url.query, ∀ c ∈ text.toList, Component.inQuery true c
  /-- The fragment is encoded. -/
  fragment : ∀ text ∈ url.fragment, ∀ c ∈ text.toList, Component.inFragment c

/-- An encoded query holds what a query keeps. -/
theorem inQuery_of_mem_encodeQuery {scheme : String} (special : Scheme.isSpecial scheme = true)
    {text : List Char} : ∀ c ∈ (encodeQuery scheme text).toList, Component.inQuery true c := by
  -- Under a special scheme the quote is encoded too.
  rw [encodeQuery, special]
  exact Component.kept_of_mem_encode (by decide) (by decide)

/-- An encoded fragment holds what a fragment keeps. -/
theorem inFragment_of_mem_encodeFragment {text : List Char} :
    ∀ c ∈ (encodeFragment text).toList, Component.inFragment c :=
  Component.kept_of_mem_encode (by decide) (by decide)

/-- A text in which neither a query nor a fragment starts. -/
def HasNoTail (text : List Char) : Prop :=
  ∀ c ∈ text, c ≠ '?' ∧ c ≠ '#'

section Reading

variable {scheme : String} {text : List Char}

/-- A class of characters that holds neither mark makes texts without a tail. -/
theorem hasNoTail_of_class {kept : Char → Bool} (question : kept '?' = false)
    (hash : kept '#' = false) (each : ∀ c ∈ text, kept c) : HasNoTail text :=
  fun c member => ⟨ne_of_class (each c member) question, ne_of_class (each c member) hash⟩

/-- Two texts without a tail make one. -/
theorem HasNoTail.append {more : List Char} (front : HasNoTail text) (back : HasNoTail more) :
    HasNoTail (text ++ more) :=
  List.forall_mem_append.mpr ⟨front, back⟩

/-- An authority goes up to what ends it, and has no tail. -/
theorem hasNoTail_takeWhile (special : Bool) (text : List Char) :
    HasNoTail (text.takeWhile fun c => !endsAuthority special c) := by
  -- Both marks end an authority under every scheme.
  refine hasNoTail_of_class ?_ ?_ (List.all_eq_true.mp List.all_takeWhile) <;>
    cases special <;> decide

/-- What is read behind two slashes has an authority, and the rest of the text makes its path, query
and fragment. -/
theorem exists_of_readWithAuthority (read : readWithAuthority scheme text = .ok url) :
    ∃ authority after,
      Authority.read scheme (text.takeWhile fun c => !endsAuthority (Scheme.isSpecial scheme) c)
        (text.dropWhile fun c => !endsAuthority (Scheme.isSpecial scheme) c) =
          .ok (authority, after) ∧
      url = ⟨scheme, some authority, false,
        pathAfterAuthority (Scheme.isSpecial scheme) (splitTail after).1,
        (splitTail after).2.1.map (encodeQuery scheme),
        (splitTail after).2.2.map encodeFragment⟩ := by
  -- Only reading the authority can fail.
  unfold readWithAuthority at read
  simp only [bind, Except.bind] at read
  split at read
  · cases read
  · rename_i parts front
    cases read
    exact ⟨parts.1, parts.2, front, rfl⟩

/-- What is read behind two slashes under a scheme that needs a host is settled. -/
theorem isSettled_of_readWithAuthority (known : Scheme.needsHost scheme)
    (read : readWithAuthority scheme text = .ok url) : url.IsSettled := by
  have special := Scheme.isSpecial_of_needsHost known
  obtain ⟨authority, after, front, rfl⟩ := exists_of_readWithAuthority read
  rw [special]
  -- Each component is what its own reader makes of its text.
  refine ⟨known, ⟨authority, rfl, Authority.isSettled_of_read special front⟩, rfl,
    Path.isResolved_read _, ?_, ?_⟩
  · intro written member
    obtain ⟨query, -, rfl⟩ := Option.map_eq_some_iff.mp member
    exact inQuery_of_mem_encodeQuery special
  · intro written member
    obtain ⟨fragment, -, rfl⟩ := Option.map_eq_some_iff.mp member
    exact inFragment_of_mem_encodeFragment

/-- The host of a file URL, if there is one, was read, and the text goes on behind it; without a
host it may go on right where one would be. -/
theorem exists_of_readFileHost {host : Option Host} {after : List Char}
    (read : readFileHost text = .ok (host, after)) :
    ∃ front, text = front ++ after ∧ HasNoTail front ∧
      ∀ named ∈ host, ∃ part, Host.readSpecial part = .ok named := by
  have whole : text = _ ++ text.dropWhile fun c => !endsAuthority true c :=
    List.takeWhile_append_dropWhile.symm
  have bare := hasNoTail_takeWhile true text
  unfold readFileHost at read
  simp only [bind, Except.bind] at read
  -- A drive letter, an empty host and the local host are no host.
  split at read
  · cases read
    exact ⟨[], rfl, by simp [HasNoTail], by simp⟩
  split at read
  · cases read
    exact ⟨_, whole, bare, by simp⟩
  split at read
  · cases read
  -- Any other text is a host or refused.
  rename_i found spelled
  split at read
  · cases read
    exact ⟨_, whole, bare, by simp⟩
  · cases read
    refine ⟨_, whole, bare, ?_⟩
    rintro named ⟨⟩
    exact ⟨_, spelled⟩

/-- A slash, and the tabs and line breaks in front of it, have no tail. -/
theorem exists_of_dropWhile_isSlash {c : Char} {rest : List Char}
    (start : text.dropWhile Ascii.isTabOrNewline = c :: rest) (slash : Path.isSlash true c) :
    ∃ front, text = front ++ rest ∧ HasNoTail front := by
  -- What is left out in front of the slash are tabs and line ends.
  refine ⟨text.takeWhile Ascii.isTabOrNewline ++ [c], ?_, HasNoTail.append ?_ ?_⟩
  · rw [List.append_assoc, List.singleton_append, ← start, List.takeWhile_append_dropWhile]
  · exact hasNoTail_of_class (by decide) (by decide) (List.all_eq_true.mp List.all_takeWhile)
  · exact hasNoTail_of_class (by decide) (by decide) (List.forall_mem_singleton.mpr slash)

/-- The two slashes that a file URL may have in front have no tail. -/
theorem exists_of_afterSlashes? {rest : List Char} (found : afterSlashes? text = some rest) :
    ∃ front, text = front ++ rest ∧ HasNoTail front := by
  -- Two slashes are looked for, each behind tabs and line ends.
  unfold afterSlashes? at found
  split at found
  · cases found
  rename_i first more start
  split at found
  · cases found
  rename_i second behind next
  split at found
  · rename_i slashes
    cases found
    rw [Bool.and_eq_true] at slashes
    obtain ⟨opening, rfl, bare⟩ := exists_of_dropWhile_isSlash start slashes.1
    obtain ⟨between, rfl, blank⟩ := exists_of_dropWhile_isSlash next slashes.2
    exact ⟨opening ++ between, by rw [List.append_assoc], bare.append blank⟩
  · cases found

/-- What is read as a file URL is one: its host, if there is one, was read, its path is that of a
file, and the rest of the text makes its query and fragment. -/
theorem exists_of_readFile (read : readFile text = .ok url) :
    ∃ front after host rooted path, text = front ++ after ∧ HasNoTail front ∧
      (∀ named ∈ host, ∃ part, Host.readSpecial part = .ok named) ∧
      url = ⟨"file", some (.ofHost host), false, .ofFile (Path.readFile rooted path),
        (splitTail after).2.1.map (encodeQuery "file" ∘ Component.strip),
        (splitTail after).2.2.map (encodeFragment ∘ Component.strip)⟩ := by
  unfold readFile at read
  simp only [bind, Except.bind, pure, Except.pure] at read
  split at read
  · -- Behind two slashes a host may stand.
    rename_i rest slashes
    obtain ⟨front, rfl, bare⟩ := exists_of_afterSlashes? slashes
    split at read
    · cases read
    · rename_i found named
      obtain ⟨between, rfl, inner, hosts⟩ := exists_of_readFileHost named
      cases read
      refine ⟨front ++ between, found.2, _, _, _, by rw [List.append_assoc], bare.append inner, ?_,
        rfl⟩
      -- A drive letter in the path drops the host.
      intro host member
      simp only [Option.mem_ite_none_left] at member
      exact hosts host member.2
  · -- Without them the text is the path from its start on.
    cases read
    exact ⟨[], text, none, _, _, rfl, by simp [HasNoTail], by simp, rfl⟩

/-- Behind a scheme there is a file URL, an authority after some slashes, or a path and no more. -/
theorem cases_of_readAfterScheme (read : readAfterScheme scheme text = .ok url) :
    Scheme.isFile scheme ∧ readFile text = .ok url ∨
    Scheme.isFile scheme = false ∧ (∃ slashes rest, Component.strip text = slashes ++ rest ∧
      (slashes = ['/', '/'] ∨ Scheme.isSpecial scheme ∧ ∀ c ∈ slashes, Path.isSlash true c) ∧
      readWithAuthority scheme rest = .ok url) ∨
    Scheme.isSpecial scheme = false ∧ url = readPlain scheme (Component.strip text) := by
  unfold readAfterScheme at read
  simp only at read
  split at read
  · -- A file has a reader of its own.
    rename_i file
    exact .inl ⟨file, read⟩
  rename_i remote
  refine .inr ?_
  split at read
  · -- All slashes in front of the authority are passed over.
    rename_i special
    exact .inl ⟨by simpa using remote, _, _, List.takeWhile_append_dropWhile.symm,
      .inr ⟨special, List.all_eq_true.mp List.all_takeWhile⟩, read⟩
  · rename_i plain
    split at read
    · -- Two slashes announce an authority.
      rename_i rest same
      exact .inl ⟨by simpa using remote, ['/', '/'], rest, same, .inl rfl, read⟩
    · -- Without them the text is read as it is.
      cases read
      exact .inr ⟨by simpa using plain, rfl⟩

/-- What is read under a scheme has that scheme, and is settled if the scheme needs a host. -/
theorem isSettled_of_readAfterScheme (read : readAfterScheme scheme text = .ok url)
    (known : Scheme.needsHost url.scheme) : url.IsSettled := by
  have remote := Scheme.isFile_of_needsHost known
  have special := Scheme.isSpecial_of_needsHost known
  rcases cases_of_readAfterScheme read with ⟨-, file⟩ | ⟨-, -, rest, -, -, behind⟩ | ⟨plain, same⟩
  · -- A file URL needs no host.
    obtain ⟨_, _, _, _, _, -, -, -, rfl⟩ := exists_of_readFile file
    simp [Scheme.isFile] at remote
  · obtain ⟨_, _, -, same⟩ := exists_of_readWithAuthority behind
    rw [same] at known
    exact isSettled_of_readWithAuthority known behind
  · -- The scheme is not special, and it is that of the URL.
    rw [same, readPlain] at special
    simp [plain] at special

/-- A text that is read as a URL starts with a scheme and its colon. -/
theorem exists_of_parse {text : String} (read : Url.parse text = .ok url) :
    ∃ name rest scheme, Ascii.trim Ascii.isControlOrSpace text.toList = name ++ ':' :: rest ∧
      Scheme.split? (Component.strip name) = some (scheme, none) ∧
      readAfterScheme scheme rest = .ok url := by
  -- The fault of the reader is handed on, and so is its result.
  have inner : Url.read text = .ok url := by
    rw [parse] at read
    cases result : Url.read text with
    | error fault =>
      rw [result] at read
      cases read
    | ok found =>
      rw [result] at read
      cases read
      rfl
  -- A text without a scheme is refused.
  unfold Url.read at inner
  split at inner
  · cases inner
  · rename_i name rest cut
    split at inner
    · rename_i scheme spelled
      exact ⟨name, rest, scheme, (splitFirst_eq_some_iff.mp cut).2, spelled, inner⟩
    · cases inner

/-- What is read from a text is settled, under the schemes that need a host. -/
theorem isSettled_of_parse {text : String} (read : Url.parse text = .ok url)
    (known : Scheme.needsHost url.scheme) : url.IsSettled := by
  -- The scheme is that of the URL, so it was read with an authority.
  obtain ⟨-, rest, scheme, -, -, behind⟩ := exists_of_parse read
  exact isSettled_of_readAfterScheme behind known

end Reading

/-- The written form of settled components. -/
theorem text_ofSettled {scheme : String} {authority : Authority} {segments : List (List Char)}
    {query fragment : Option (List Char)} (filled : segments ≠ []) :
    (ofSettled scheme authority segments query fragment).text =
      .ofList (scheme.toList ++
        ':' :: ('/' :: '/' :: authority.text.toList ++ tailText segments query fragment)) := by
  -- Query and fragment are written with their signs, or not at all.
  rw [← String.toList_inj]
  cases query <;> cases fragment <;>
    simp [text, ofSettled, filled, Path.text, tailText, marked, List.flatMap_map]

namespace IsSettled

/-- The scheme of a settled URL is special. -/
theorem special (settled : url.IsSettled) : Scheme.isSpecial url.scheme = true :=
  Scheme.isSpecial_of_needsHost settled.known

/-- A settled URL is no file URL. -/
theorem remote (settled : url.IsSettled) : Scheme.isFile url.scheme = false :=
  Scheme.isFile_of_needsHost settled.known

/-- The authority of a settled URL is settled. -/
theorem of_authority (settled : url.IsSettled) {authority : Authority}
    (named : url.authority = some authority) : authority.IsSettled url.scheme := by
  -- A URL has one authority.
  obtain ⟨own, same, kept⟩ := settled.authority
  rw [same] at named
  exact Option.some.inj named ▸ kept

/-- A settled URL is made of settled components. -/
theorem exists_components (settled : url.IsSettled) :
    ∃ authority segments query fragment, segments ≠ [] ∧ authority.IsSettled url.scheme ∧
      IsSettledTail segments query fragment ∧
      url = ofSettled url.scheme authority segments query fragment := by
  obtain ⟨authority, named, kept⟩ := settled.authority
  obtain ⟨segments, filled, each, path⟩ := settled.path
  refine ⟨authority, segments, url.query.map String.toList, url.fragment.map String.toList, filled,
    kept, ⟨each, ?_, ?_⟩, ?_⟩
  · intro text member
    obtain ⟨query, held, rfl⟩ := Option.map_eq_some_iff.mp member
    exact settled.query query held
  · intro text member
    obtain ⟨fragment, held, rfl⟩ := Option.map_eq_some_iff.mp member
    exact settled.fragment fragment held
  · -- The texts are the same whether they are held as texts or as lists of characters.
    have unguarded := settled.unguarded
    cases url
    simp_all [ofSettled, Function.comp_def]

/-- A settled URL has a host that was read. -/
theorem exists_host (settled : url.IsSettled) {authority : Authority}
    (named : url.authority = some authority) :
    ∃ host, authority.host = some host ∧ url.hostText? = some host.text ∧
      ∃ text, Host.readSpecial text = .ok host := by
  -- The authority of a settled URL has a host, which was read from some text.
  obtain ⟨host, hosted, read⟩ := (settled.of_authority named).host
  exact ⟨host, hosted, by simp [hostText?, host?, named, hosted], read⟩

end IsSettled

/-- The labels of a URL are the pieces of its host. -/
theorem unmarked_of_labels {host : Host} (told : url.hostText? = some host.text)
    (unmarked : ∀ label ∈ url.labels, ¬ Label.punycodeMark <+: label.toList) :
    ∀ label ∈ fields '.' host.text.toList, ¬ Label.punycodeMark <+: label := by
  -- The pieces of the host are the labels of the URL.
  intro label member
  have listed : String.ofList label ∈ url.labels := by
    rw [labels, told]
    exact List.mem_map_of_mem member
  have free := unmarked (.ofList label) listed
  rwa [String.toList_ofList] at free

/-- The host of a URL is read back, unless one of its labels is in Punycode. -/
theorem isReadBack_of_labels {host : Host} {text : List Char}
    (told : url.hostText? = some host.text) (read : Host.readSpecial text = .ok host)
    (unmarked : ∀ label ∈ url.labels, ¬ Label.punycodeMark <+: label.toList) :
    host.IsReadBack :=
  Host.isReadBack_of_readSpecial read (unmarked_of_labels told unmarked)

/-- A settled URL is read from its written form, unless a label of its host is in Punycode. -/
theorem IsSettled.parse_text (settled : url.IsSettled)
    (unmarked : ∀ label ∈ url.labels, ¬ Label.punycodeMark <+: label.toList) :
    Url.parse url.text = .ok url := by
  obtain ⟨authority, segments, query, fragment, filled, kept, tail, whole⟩ :=
    settled.exists_components
  have named : url.authority = some authority := by
    rw [whole]
    rfl
  obtain ⟨host, hosted, told, text, read⟩ := settled.exists_host named
  have readBack := isReadBack_of_labels told read unmarked
  have front := kept.isReadFrom_text settled.special hosted readBack
  -- Each component is written as it is read.
  have again := read_of_settled settled.known front tail
  rw [← text_ofSettled filled, ← whole] at again
  rw [parse, again]
  rfl

end Url

end Locator
