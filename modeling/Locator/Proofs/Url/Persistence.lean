import Locator.Proofs.Url.Change

/-! What a URL keeps while it is changed. A component stays as it was last written, apart from one
port: a number that some scheme on the way takes for granted is not held any more. -/

namespace Locator

namespace Url

/-- What a URL can be asked for besides its scheme. -/
inductive Aspect where
  /-- The port, or else the default one of the scheme. -/
  | port
  /-- The host. -/
  | host
  /-- The path. -/
  | path
  /-- The query. -/
  | query
  /-- The fragment. -/
  | fragment
  deriving DecidableEq, Repr

/-- The form of an answer; only the path is always there. -/
def Aspect.Answer : Aspect → Type
  | port => Option UInt16
  | path => String
  | host | query | fragment => Option String

/-- The answer of a URL. -/
def Aspect.ask (url : Url) : (aspect : Aspect) → aspect.Answer
  | port => url.port?
  | host => url.hostText?
  | path => url.pathText
  | query => url.query
  | fragment => url.fragment

/-- What a change writes; another scheme writes nothing else. -/
def Change.target? : Change → Option Aspect
  | scheme _ => none
  | port _ => some .port
  | host _ | label _ _ => some .host
  | path _ | segment _ _ => some .path
  | query _ | queryValue _ _ | queryPairs _ => some .query
  | fragment _ => some .fragment

/-- What a change makes of a URL, by what it writes. -/
def Effect (url next : Url) : Option Aspect → Prop
  -- Under another scheme a URL with a host may lose its port.
  | none => url.accepts next.scheme ∧ next = { url with
      scheme := next.scheme,
      authority := url.authority.map fun a =>
        if a.host.isSome && !Scheme.isFile next.scheme then
          { a with port := keptPort next.scheme a.port }
        else a }
  | some .port => ∃ number authority guarded,
      url.authority = some authority ∧ authority.host.isSome ∧ next = { url with
        authority := some { authority with port := keptPort url.scheme (some number) }, guarded }
  | some .host => ∃ text host, Host.read (Scheme.isSpecial url.scheme) text = .ok host ∧
      next = { url with
        authority := some { url.authority.getD (Authority.ofHost none) with host } }
  | some .path => ∃ path, next = { url with path }
  | some .query => ∃ query, next = { url with query }
  | some .fragment => ∃ fragment, next = { url with fragment }

/-- The URLs that a run of changes passes, with the first one, up to a change that is refused. -/
def stages (url : Url) : List Change → List Url
  | [] => [url]
  | change :: rest =>
    url :: match change.apply url with
      | .ok next => next.stages rest
      | .error _ => []

/-- The port that a URL names itself. -/
def ownPort? (url : Url) : Option UInt16 :=
  url.authority.bind Authority.port

variable {url next : Url}

section Effects

/-- Another scheme leaves all but the port as it is. -/
theorem effect_of_withScheme {text : String} (changed : url.withScheme text = .ok next) :
    Effect url next none := by
  -- A scheme is only set where the new one is of the same kind.
  unfold withScheme at changed
  split at changed
  · split at changed
    · rename_i allowed
      cases changed
      exact ⟨((Bool.and_eq_true _ _).mp allowed).2, rfl⟩
    · cases changed
  · cases changed

/-- Another host leaves everything else as it is. -/
theorem effect_of_withHost {text : String} (changed : url.withHost text = .ok next) :
    Effect url next (some .host) := by
  -- The host was read from a part of the text.
  obtain ⟨part, host, -, read, same⟩ := exists_of_withHost changed
  exact ⟨part, host, read, same⟩

/-- Another port leaves everything but the guard as it is, and needs a host. -/
theorem exists_of_withPort {number : UInt16} (changed : url.withPort number = .ok next) :
    ∃ authority guarded, url.authority = some authority ∧ authority.host.isSome ∧ next = { url with
      authority := some { authority with port := keptPort url.scheme (some number) }, guarded } := by
  unfold withPort at changed
  split at changed
  · rename_i authority named
    split at changed
    · rename_i hosted
      refine ⟨authority, next.guarded, named, ((Bool.and_eq_true _ _).mp hosted).1, ?_⟩
      dsimp only at changed
      split at changed
      · -- A URL that has the port already is not changed.
        rename_i already
        cases changed
        rw [already, ← named]
      · cases changed
        rfl
    · cases changed
  · cases changed

/-- Another port is nothing but a change of the port. -/
theorem effect_of_withPort {number : UInt16} (changed : url.withPort number = .ok next) :
    Effect url next (some .port) :=
  ⟨number, exists_of_withPort changed⟩

/-- Another path leaves everything else as it is. -/
theorem effect_withPath (url : Url) (text : String) :
    Effect url (url.withPath text) (some .path) := by
  -- The path of the URL is all that is set in both cases.
  unfold withPath
  dsimp only
  split
  · exact ⟨.whole "", rfl⟩
  · exact ⟨_, rfl⟩

/-- Every change has the effect that belongs to what it writes. -/
theorem effect_of_apply {change : Change} (applied : change.apply url = .ok next) :
    Effect url next change.target? := by
  cases change with
  | scheme text => exact effect_of_withScheme applied
  | host text => exact effect_of_withHost applied
  | port number => exact effect_of_withPort applied
  | path text =>
    cases applied
    exact effect_withPath url text
  | query text | fragment text | queryValue name value | queryPairs pairs =>
    cases applied
    exact ⟨_, rfl⟩
  | segment index text =>
    -- A segment is replaced by setting the path that the segments make up.
    simp only [Change.apply, withPathSegment] at applied
    split at applied
    · cases applied
      exact effect_withPath url _
    · cases applied
  | label index text =>
    -- A label is replaced by setting the host that the labels make up.
    simp only [Change.apply, withLabel] at applied
    split at applied
    · exact effect_of_withHost applied
    · cases applied

end Effects

/-- A change leaves alone what it does not write, the port apart. -/
theorem Effect.ask_eq {target : Option Aspect} {aspect : Aspect} (effect : Effect url next target)
    (silent : target ≠ some aspect) (other : aspect ≠ .port) :
    aspect.ask next = aspect.ask url := by
  cases target with
  | none =>
    -- A new scheme is no aspect; it may drop the port and nothing else that is asked for.
    obtain ⟨-, same⟩ := effect
    rw [same]
    cases aspect with
    | port => exact absurd rfl other
    | host =>
      -- The authority may lose its port but no host.
      simp only [Aspect.ask, hostText?, host?]
      cases url.authority with
      | none => rfl
      | some authority =>
        simp only [Option.map_some, Option.bind_some]
        split <;> rfl
    | path | query | fragment => rfl
  | some written =>
    cases written with
    | port =>
      -- A port is set beside the host that is there.
      obtain ⟨number, authority, guarded, named, -, same⟩ := effect
      rw [same]
      cases aspect with
      | port => exact absurd rfl other
      | host =>
        simp only [Aspect.ask, hostText?, host?, named, Option.bind_some]
        rfl
      | path | query | fragment => rfl
    | host =>
      -- A host replaces the host and leaves everything behind it.
      obtain ⟨text, host, -, same⟩ := effect
      rw [same]
      cases aspect <;> first | rfl | exact absurd rfl silent | exact absurd rfl other
    | path | query | fragment =>
      -- Each of the others is one field of the record.
      obtain ⟨value, same⟩ := effect
      rw [same]
      cases aspect <;> first | rfl | exact absurd rfl silent

/-- Only another scheme touches the scheme. -/
theorem Effect.scheme_eq {written : Aspect} (effect : Effect url next (some written)) :
    next.scheme = url.scheme := by
  -- Each effect says what the new URL is, and its scheme is that of the old one.
  cases written with
  | port =>
    obtain ⟨_, _, _, -, -, same⟩ := effect
    rw [same]
  | host =>
    obtain ⟨_, _, -, same⟩ := effect
    rw [same]
  | path | query | fragment =>
    obtain ⟨_, same⟩ := effect
    rw [same]

/-- Under a scheme that needs a host, every change leads to such a scheme. -/
theorem Effect.needsHost {target : Option Aspect} (effect : Effect url next target)
    (known : Scheme.needsHost url.scheme) : Scheme.needsHost next.scheme := by
  cases target with
  | none =>
    -- The scheme of files takes no URL with an authority, and a special one none without a host.
    obtain ⟨allowed, -⟩ := effect
    simp only [accepts, Scheme.isSpecial_of_needsHost known, Bool.and_eq_true, decide_eq_true_eq,
      Bool.not_eq_true', Bool.or_eq_true] at allowed
    obtain ⟨⟨special, remote⟩, hosted⟩ := allowed
    refine Scheme.needsHost_of_isSpecial special ?_
    have named : url.authority.isSome := by
      rcases hosted with found | plain
      · exact Option.isSome_of_isSome_bind found
      · rw [special] at plain
        cases plain
    simpa [named] using remote
  | some written =>
    rwa [effect.scheme_eq]

/-- Under a scheme that needs a host, no change takes the host away. -/
theorem Effect.hosted {target : Option Aspect} (effect : Effect url next target)
    (known : Scheme.needsHost url.scheme) (hosted : url.host?.isSome) : next.host?.isSome := by
  by_cases written : target = some .host
  · subst written
    -- A special scheme reads every text as a host or refuses it.
    obtain ⟨text, host, read, same⟩ := effect
    rw [Scheme.isSpecial_of_needsHost known] at read
    obtain ⟨found, rfl, -⟩ := Host.exists_of_read read
    rw [same]
    rfl
  · -- What writes no host leaves it as it is.
    have kept := effect.ask_eq written (by decide)
    have told : next.hostText? = url.hostText? := kept
    have alike : next.host?.isSome = url.host?.isSome := by
      simpa [hostText?] using congrArg Option.isSome told
    rw [alike, hosted]

/-- What is kept under a scheme is kept under it once more. -/
theorem keptPort_keptPort (scheme : String) (port : Option UInt16) :
    keptPort scheme (keptPort scheme port) = keptPort scheme port := by
  -- A port that is dropped once is not there to be dropped again, and one that is kept is no
  -- default.
  unfold keptPort
  split <;> simp [*]

/-- A change that writes no port keeps the one that the URL names, unless it has become the default
one. -/
theorem Effect.ownPort?_eq {target : Option Aspect} (effect : Effect url next target)
    (known : Scheme.needsHost url.scheme) (hosted : url.host?.isSome)
    (silent : target ≠ some .port) {port : Option UInt16}
    (held : url.ownPort? = keptPort url.scheme port) :
    next.ownPort? = keptPort next.scheme url.ownPort? := by
  obtain ⟨authority, named⟩ := Option.isSome_iff_exists.mp (Option.isSome_of_isSome_bind hosted)
  have remote := Scheme.isFile_of_needsHost (effect.needsHost known)
  cases target with
  | none =>
    -- The new scheme drops the port that it takes for granted.
    obtain ⟨-, same⟩ := effect
    have found : authority.host.isSome := by simpa [host?, named] using hosted
    rw [same]
    simp [ownPort?, named, found, remote]
  | some written =>
    -- The scheme stays, and under it nothing more is dropped.
    have same : next.scheme = url.scheme ∧ next.ownPort? = url.ownPort? := by
      cases written with
      | port => exact absurd rfl silent
      | host =>
        obtain ⟨_, _, -, same⟩ := effect
        rw [same]
        exact ⟨rfl, by simp [ownPort?, named]⟩
      | path | query | fragment =>
        obtain ⟨_, same⟩ := effect
        rw [same]
        exact ⟨rfl, rfl⟩
    rw [same.1, same.2, held, keptPort_keptPort]

section Runs

/-- A run of changes is cut at any place. -/
theorem exists_of_changed_append {before after : List Change} {last : Url}
    (reached : url.changed (before ++ after) = .ok last) :
    ∃ between, url.changed before = .ok between ∧ between.changed after = .ok last := by
  rw [changed, List.foldlM_append] at reached
  change (url.changed before).bind (·.changed after) = .ok last at reached
  -- A change that is refused in the first part stops the whole run.
  cases first : url.changed before with
  | error fault =>
    rw [first] at reached
    cases reached
  | ok between =>
    rw [first] at reached
    exact ⟨between, rfl, reached⟩

/-- A run of one change. -/
theorem changed_singleton (url : Url) (change : Change) : url.changed [change] = change.apply url :=
  bind_pure _

/-- The first change is made, and the others start from what it gives. -/
theorem exists_of_changed_cons {change : Change} {rest : List Change} {last : Url}
    (reached : url.changed (change :: rest) = .ok last) :
    ∃ next, change.apply url = .ok next ∧ next.changed rest = .ok last := by
  -- The first change is a chain of one.
  rw [← List.singleton_append] at reached
  obtain ⟨next, first, others⟩ := exists_of_changed_append reached
  rw [changed_singleton] at first
  exact ⟨next, first, others⟩

variable {changes : List Change} {last : Url}

/-- Under a scheme that needs a host, every run of changes leads to such a scheme. -/
theorem needsHost_of_changed (known : Scheme.needsHost url.scheme)
    (reached : url.changed changes = .ok last) : Scheme.needsHost last.scheme := by
  -- By induction on the changes; each of them stays within the schemes that need a host.
  induction changes generalizing url with
  | nil =>
    cases reached
    exact known
  | cons change rest ih =>
    obtain ⟨next, first, others⟩ := exists_of_changed_cons reached
    exact ih ((effect_of_apply first).needsHost known) others

/-- A run of changes leaves alone what none of them writes, the port apart. -/
theorem ask_of_changed {aspect : Aspect} (other : aspect ≠ .port)
    (silent : ∀ change ∈ changes, change.target? ≠ some aspect)
    (reached : url.changed changes = .ok last) : aspect.ask last = aspect.ask url := by
  induction changes generalizing url with
  | nil =>
    cases reached
    rfl
  | cons change rest ih =>
    obtain ⟨next, first, others⟩ := exists_of_changed_cons reached
    -- The later changes keep what the first one leaves alone.
    rw [ih (fun later member => silent later (List.mem_cons_of_mem _ member)) others]
    exact (effect_of_apply first).ask_eq (silent change List.mem_cons_self) other

/-- A run of changes that write no port drops the one that the URL names if it is the default one of
a scheme on the way, and else keeps it. -/
theorem ownPort?_of_changed {port : Option UInt16} (known : Scheme.needsHost url.scheme)
    (hosted : url.host?.isSome) (held : url.ownPort? = keptPort url.scheme port)
    (silent : ∀ change ∈ changes, change.target? ≠ some .port)
    (reached : url.changed changes = .ok last) :
    last.ownPort? =
      if ∃ met ∈ url.stages changes, Scheme.defaultPort? met.scheme = port then none else port := by
  -- The induction is on the changes to come; a port that is dropped has become no port.
  induction changes generalizing url port with
  | nil =>
    cases reached
    simp [stages, held, keptPort, eq_comm]
  | cons change rest ih =>
    obtain ⟨next, first, others⟩ := exists_of_changed_cons reached
    have effect := effect_of_apply first
    have step := effect.ownPort?_eq known hosted (silent change List.mem_cons_self) held
    have quiet : ∀ change ∈ rest, change.target? ≠ some .port :=
      fun later member => silent later (List.mem_cons_of_mem _ member)
    rw [ih (effect.needsHost known) (effect.hosted known hosted) step quiet others, held, stages,
      first]
    -- The port is dropped here, or the rest of the run decides.
    by_cases default : port = Scheme.defaultPort? url.scheme
    · simp [keptPort, default]
    · simp [keptPort, default, Ne.symm default]

end Runs

/-- The port that is told is the one that the URL names, or else the default one. -/
theorem port?_eq (url : Url) :
    url.port? = url.ownPort?.or (Scheme.defaultPort? url.scheme) := by
  -- The default port of the scheme stands in for one that is missing.
  rw [port?, ownPort?, Option.orElse_eq_or]

/-- A port that is held unless it is the default one is told. -/
theorem port?_of_keptPort {number : UInt16}
    (held : url.ownPort? = keptPort url.scheme (some number)) : url.port? = some number := by
  rw [port?_eq, held, keptPort]
  split
  · -- A default port is not held, and the scheme tells it.
    rename_i default
    rw [← default]
    rfl
  · rfl

/-- After a change of the port the URL has a host, and the port is the number that was given. -/
theorem Effect.exists_port (effect : Effect url next (some .port)) :
    next.host?.isSome ∧ ∃ number, next.ownPort? = keptPort next.scheme (some number) ∧
      next.port? = some number := by
  -- The port was set, and is told as it was given, whether it is the default one or not.
  obtain ⟨number, authority, guarded, -, hosted, same⟩ := effect
  have held : next.ownPort? = keptPort next.scheme (some number) := by
    rw [same]
    rfl
  refine ⟨?_, number, held, port?_of_keptPort held⟩
  rw [same]
  exact hosted

/-- A component of a web URL keeps the value that it was last given, through any changes of the
others. The port alone may be lost: where it is the default one of a scheme on the way, it is the
default one of the last scheme in the end. -/
theorem ask_of_last_written {start url : Url} {before after : List Change} {last : Change}
    {aspect : Aspect} (known : start.scheme ∈ ["http", "https", "ws", "wss", "ftp"])
    (reached : start.changed (before ++ last :: after) = .ok url)
    (writes : last.target? = some aspect)
    (silent : ∀ change ∈ after, change.target? ≠ some aspect) :
    ∃ written, start.changed (before ++ [last]) = .ok written ∧ written.changed after = .ok url ∧
      (aspect ≠ .port → aspect.ask url = aspect.ask written) ∧
      (aspect = .port → url.port? =
        if ∃ met ∈ written.stages after, Scheme.defaultPort? met.scheme = written.port? then
          Scheme.defaultPort? url.scheme
        else written.port?) := by
  rw [List.append_cons] at reached
  obtain ⟨written, front, back⟩ := exists_of_changed_append reached
  refine ⟨written, front, back, fun other => ask_of_changed other silent back, ?_⟩
  rintro rfl
  -- The last change of the port leaves a host behind, which the later changes keep.
  obtain ⟨between, early, late⟩ := exists_of_changed_append front
  rw [changed_singleton] at late
  have effect := effect_of_apply late
  have needed := needsHost_of_changed (Scheme.needsHost_of_mem known) early
  rw [writes] at effect
  obtain ⟨hosted, number, held, told⟩ := effect.exists_port
  have own := ownPort?_of_changed (effect.needsHost needed) hosted held silent back
  rw [port?_eq url, own, told]
  split <;> simp

/-- A query and a port that are set, and the changes that follow them: the query stays, and the port
is lost, because the scheme after the next one takes another port for granted. -/
theorem ask_of_last_written_of_schemes :
    ∃ start url, Url.parse "http://h/?old" = .ok start ∧
      start.changed [.query "a b", .port 443, .scheme "https", .host "g", .path "p", .scheme "ws"] =
        .ok url ∧
      url.text = "ws://g/p?a%20b" ∧ url.query = some "a%20b" ∧ url.port? = some 80 := by
  have read : Url.parse "http://h/?old" =
      .ok ⟨"http", some ⟨"", "", some (.name "h"), none⟩, false, .segmented [""], some "old",
        none⟩ := rfl
  have reached : Url.changed
      ⟨"http", some ⟨"", "", some (.name "h"), none⟩, false, .segmented [""], some "old", none⟩
      [.query "a b", .port 443, .scheme "https", .host "g", .path "p", .scheme "ws"] =
      .ok ⟨"ws", some ⟨"", "", some (.name "g"), none⟩, false, .segmented ["p"], some "a%20b",
        none⟩ := rfl
  obtain ⟨queried, early, -, query, -⟩ :=
    @ask_of_last_written _ _ [] _ _ .query (by decide) reached rfl (by decide)
  obtain ⟨ported, late, -, -, port⟩ :=
    @ask_of_last_written _ _ [.query "a b"] _ _ .port (by decide) reached rfl (by decide)
  refine ⟨_, _, read, reached, rfl, ?_, ?_⟩
  · -- The query is set first of all.
    cases early
    exact query (by decide)
  · -- The port is that of the scheme which comes next.
    cases late
    rw [port rfl]
    decide

/-- A port that is set is not told any more under another scheme if it is the default one of the
scheme that it was set under. -/
theorem port?_lost_under_other_scheme :
    ∃ start written url, Url.parse "https://h/" = .ok start ∧
      start.changed [.port 443] = .ok written ∧ written.changed [.scheme "http"] = .ok url ∧
      written.port? = some 443 ∧ url.port? = some 80 :=
  ⟨_, _, _, rfl, rfl, rfl, rfl, rfl⟩

end Url

end Locator
