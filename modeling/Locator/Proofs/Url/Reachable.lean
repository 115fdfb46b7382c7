import Locator.Proofs.Url.Path.File
import Locator.Proofs.Url.Persistence

/-! Reachable URLs: what all URLs under special schemes have in common, however they came about. A
URL may have been read as one of a file and then have been given the scheme of the web, so its path
is made of encoded segments but need not be settled. -/

namespace Locator

namespace Url

/-- A URL that was read from a text and then changed any number of times. -/
def IsReachable (url : Url) : Prop :=
  ∃ text start changes, Url.parse text = .ok start ∧ start.changed changes = .ok url

/-- A URL under a special scheme: a path of encoded segments behind an authority whose host, if
there is one, was read. -/
structure IsRegular (url : Url) : Prop where
  /-- The scheme is special. -/
  special : Scheme.isSpecial url.scheme = true
  /-- There is an authority, and its host was read from a text. -/
  authority : ∃ authority, url.authority = some authority ∧
    ∀ host ∈ authority.host, ∃ text, Host.readSpecial text = .ok host
  /-- The path is made of encoded segments. -/
  path : url.path.IsSegmented

variable {url next : Url}

/-- A settled URL is regular. -/
theorem IsSettled.isRegular (settled : url.IsSettled) : url.IsRegular := by
  -- A settled URL has a host that was read, which is the only one of its authority.
  obtain ⟨authority, named, kept⟩ := settled.authority
  obtain ⟨own, hosted, read⟩ := kept.host
  refine ⟨settled.special, ⟨authority, named, ?_⟩, settled.path.isSegmented⟩
  intro host member
  rw [hosted] at member
  exact Option.some.inj member ▸ read

/-- What is read under a special scheme is regular. -/
theorem isRegular_of_parse {text : String} (read : Url.parse text = .ok url)
    (special : Scheme.isSpecial url.scheme = true) : url.IsRegular := by
  by_cases file : Scheme.isFile url.scheme
  · -- Of the three readers only the one of file URLs gives this scheme.
    obtain ⟨-, rest, scheme, -, -, behind⟩ := exists_of_parse read
    rcases cases_of_readAfterScheme behind with ⟨-, found⟩ | ⟨remote, -, rest, -, -, found⟩ |
      ⟨plain, same⟩
    · obtain ⟨_, _, host, rooted, path, -, -, hosts, rfl⟩ := exists_of_readFile found
      exact ⟨rfl, ⟨_, rfl, hosts⟩, Path.isSegmented_ofFile_readFile rooted path⟩
    · obtain ⟨_, _, -, rfl⟩ := exists_of_readWithAuthority found
      rw [remote] at file
      cases file
    · rw [same, readPlain] at special
      simp [plain] at special
  · -- Under any other special scheme what is read is even settled.
    exact (isSettled_of_parse read
      (Scheme.needsHost_of_isSpecial special (by simpa using file))).isRegular

/-- A change never leads from a special scheme to one that is not, or back. -/
theorem isSpecial_of_apply {change : Change} (applied : change.apply url = .ok next) :
    Scheme.isSpecial next.scheme = Scheme.isSpecial url.scheme := by
  have effect := effect_of_apply applied
  cases written : change.target? with
  | none =>
    -- Only a scheme of the same kind is taken.
    rw [written] at effect
    obtain ⟨allowed, -⟩ := effect
    simp only [accepts, Bool.and_eq_true, decide_eq_true_eq] at allowed
    exact allowed.1.1
  | some aspect =>
    -- No other change touches the scheme.
    rw [written] at effect
    rw [effect.scheme_eq]

namespace IsRegular

/-- Whatever a regular URL is given as its path is made of encoded segments. -/
theorem withPath (regular : url.IsRegular) (text : String) : (url.withPath text).IsRegular := by
  obtain ⟨authority, named, read⟩ := regular.authority
  obtain ⟨segments, filled, encoded, path⟩ := regular.path
  -- Behind an authority the path is never one text.
  have same : url.withPath text = { url with path := url.readPath text.toList } := by
    simp [Url.withPath, startsWithPath, named]
  rw [same]
  refine ⟨regular.special, ⟨authority, named, read⟩, ?_⟩
  simp only [readPath, path]
  split
  · exact Path.isSegmented_ofFile_readFile _ _
  · rw [if_pos regular.special]
    exact (Path.isResolved_read _).isSegmented

/-- Every change keeps a URL regular. -/
theorem apply (regular : url.IsRegular) {change : Change} (applied : change.apply url = .ok next) :
    next.IsRegular := by
  obtain ⟨authority, named, read⟩ := regular.authority
  have special := (isSpecial_of_apply applied).trans regular.special
  have effect := effect_of_apply applied
  cases change with
  | scheme text =>
    obtain ⟨-, same⟩ := effect
    rw [same] at special ⊢
    refine ⟨special, ⟨_, by rw [named]; rfl, ?_⟩, regular.path⟩
    -- The port may be dropped, the host stays.
    dsimp only
    split <;> exact read
  | host text | label index text =>
    obtain ⟨part, host, found, same⟩ := effect
    rw [same] at special ⊢
    -- Under a special scheme the new host is read as one of a special scheme.
    rw [regular.special] at found
    obtain ⟨own, rfl, spelled⟩ := Host.exists_of_read found
    refine ⟨special, ⟨_, rfl, ?_⟩, regular.path⟩
    rintro named ⟨⟩
    exact ⟨part, spelled⟩
  | port number =>
    obtain ⟨_, own, _, found, -, same⟩ := effect
    rw [same] at special ⊢
    rw [named] at found
    cases found
    exact ⟨special, ⟨_, rfl, read⟩, regular.path⟩
  | path text =>
    cases applied
    exact regular.withPath text
  | segment index text =>
    -- A segment is replaced by setting the path that the segments make up.
    simp only [Change.apply, withPathSegment] at applied
    split at applied
    · cases applied
      exact regular.withPath _
    · cases applied
  | query text | fragment text | queryValue name value | queryPairs pairs =>
    cases applied
    exact ⟨special, ⟨authority, named, read⟩, regular.path⟩

/-- Every run of changes keeps a URL regular. -/
theorem changed (regular : url.IsRegular) {changes : List Change}
    (reached : url.changed changes = .ok next) : next.IsRegular := by
  -- By induction on the changes; each of them keeps what is asked of the URL.
  induction changes generalizing url with
  | nil =>
    cases reached
    exact regular
  | cons change rest ih =>
    obtain ⟨between, first, others⟩ := exists_of_changed_cons reached
    exact ih (regular.apply first) others

end IsRegular

/-- A run of changes never leads from a special scheme to one that is not, or back. -/
theorem isSpecial_of_changed {changes : List Change} (reached : url.changed changes = .ok next) :
    Scheme.isSpecial next.scheme = Scheme.isSpecial url.scheme := by
  -- By induction on the changes; none of them leaves the schemes of its kind.
  induction changes generalizing url with
  | nil =>
    cases reached
    rfl
  | cons change rest ih =>
    obtain ⟨between, first, others⟩ := exists_of_changed_cons reached
    rw [ih others, isSpecial_of_apply first]

/-- Every reachable URL under a special scheme is regular. -/
theorem IsReachable.isRegular (reachable : url.IsReachable)
    (special : Scheme.isSpecial url.scheme = true) : url.IsRegular := by
  obtain ⟨text, start, changes, read, reached⟩ := reachable
  -- The scheme was special from the start.
  rw [isSpecial_of_changed reached] at special
  exact (isRegular_of_parse read special).changed reached

/-- Every reachable URL under a scheme of the web, or of file transfer, is regular. -/
theorem IsReachable.isRegular_of_mem (reachable : url.IsReachable)
    (known : url.scheme ∈ ["http", "https", "ws", "wss", "ftp"]) : url.IsRegular :=
  reachable.isRegular (Scheme.isSpecial_of_needsHost (Scheme.needsHost_of_mem known))

end Url

end Locator
