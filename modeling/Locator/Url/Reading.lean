import Locator.Url.Basic

/-! Reading a URL from a text. -/

namespace Locator

namespace Authority

/-- The text before the last at sign, when there is one, and the text after it. -/
def splitUserinfo (text : List Char) : Option (List Char) × List Char :=
  match splitFirst '@' text.reverse with
  | none => (none, text)
  | some (after, before) => (some before.reverse, after.reverse)

/-- The user name and the password that a text spells. -/
def readUserinfo (text : List Char) : String × String :=
  let (username, password) := (splitFirst ':' text).getD (text, [])
  (Component.encode Component.inUserinfo username, Component.encode Component.inUserinfo password)

/-- The text of the host and what follows it: a colon ends it unless it stands in brackets. -/
def splitHost (bracketed : Bool) : List Char → List Char × List Char
  | [] => ([], [])
  | c :: rest =>
    if c = ':' ∧ !bracketed then ([], c :: rest)
    else
      let (host, after) := splitHost (c = '[' || (bracketed && c != ']')) rest
      (c :: host, after)

/-- The port that a text spells after the colon, and what follows it. Only a backslash may follow,
which then belongs to the path. -/
def readPort (scheme : String) (text : List Char) :
    Except UrlFault (Option UInt16 × List Char) :=
  let digits := text.takeWhile Char.isDigit
  let rest := text.dropWhile Char.isDigit
  let port := Ascii.decimalValue digits
  if 65535 < port then .error .invalidPort
  else if rest ≠ [] ∧ rest.head? ≠ some '\\' then .error .invalidPort
  else if digits = [] ∨ Scheme.defaultPort? scheme = some (.ofNat port) then .ok (none, rest)
  else .ok (some (.ofNat port), rest)

/-- The authority that a text spells and what follows it. An at sign with nothing before it needs a
host, and so does a user name, a password or a port. -/
def read (scheme : String) (text after : List Char) :
    Except UrlFault (Authority × List Char) := do
  let (userinfo, hostAndPort) := splitUserinfo text
  -- The first thing that is wrong is the one that is told.
  if userinfo = some [] ∧ hostAndPort = [] ∧ after ≠ [] then throw .emptyHost
  let (username, password) := readUserinfo (userinfo.getD [])
  let (hostText, rest) := splitHost false hostAndPort
  if Scheme.needsHost scheme ∧ hostText = [] then throw .emptyHost
  let host ← Host.read (Scheme.isSpecial scheme) hostText
  -- Without a host neither a port nor a user makes sense.
  if host = none ∧ rest ≠ [] then throw .emptyHost
  let (port, remaining) ← match rest with
    | ':' :: digits => readPort scheme digits
    | _ => pure (none, rest)
  if host = none ∧ (username ≠ "" ∨ password ≠ "") then throw .emptyHost
  return (⟨username, password, host, port⟩, remaining ++ after)

end Authority

namespace Url

/-- A text cut into its path with everything before it, its query and its fragment. -/
def splitTail (text : List Char) : List Char × Option (List Char) × Option (List Char) :=
  let (beforeFragment, fragment) :=
    match splitFirst '#' text with
    | none => (text, none)
    | some (before, after) => (before, some after)
  match splitFirst '?' beforeFragment with
  | none => (beforeFragment, none, fragment)
  | some (path, query) => (path, some query, fragment)

/-- A query's text in its encoded form. -/
def encodeQuery (scheme : String) (text : List Char) : String :=
  Component.encode (Component.inQuery (Scheme.isSpecial scheme)) text

/-- A fragment's text in its encoded form. -/
def encodeFragment (text : List Char) : String :=
  Component.encode Component.inFragment text

/-- Whether a character ends an authority. -/
def endsAuthority (special : Bool) (c : Char) : Bool :=
  Path.isSlash special c || c = '?' || c = '#'

/-- The path that stands after an authority, in a scheme that is not that of files. -/
def pathAfterAuthority (special : Bool) (text : List Char) : Path :=
  if !special && text.isEmpty then .segmented []
  else Path.read special (Path.dropSlash special text)

/-- The URL that a text spells after two slashes, in a scheme that is not that of files. -/
def readWithAuthority (scheme : String) (text : List Char) : Except UrlFault Url := do
  let special := Scheme.isSpecial scheme
  let (authority, after) ← Authority.read scheme
    (text.takeWhile fun c => !endsAuthority special c)
    (text.dropWhile fun c => !endsAuthority special c)
  let (path, query, fragment) := splitTail after
  return ⟨scheme, some authority, false, pathAfterAuthority special path,
    query.map (encodeQuery scheme), fragment.map encodeFragment⟩

/-- The host that a file URL names, and the text after it. A drive letter is no host, and the local
host is none. -/
def readFileHost (text : List Char) : Except UrlFault (Option Host × List Char) := do
  let host := Component.strip (text.takeWhile fun c => !endsAuthority true c)
  let after := text.dropWhile fun c => !endsAuthority true c
  -- A drive letter opens the path, so the whole text is left to it.
  if Path.isDrive host then return (none, text)
  if host.isEmpty then return (none, after)
  match ← Host.readSpecial host with
  | .name "localhost" => return (none, after)
  | named => return (some named, after)

/-- The text after two slashes, if a file URL has two in front; tabs and line ends do not matter. -/
def afterSlashes? (text : List Char) : Option (List Char) :=
  match text.dropWhile Ascii.isTabOrNewline with
  | [] => none
  | first :: more =>
    match more.dropWhile Ascii.isTabOrNewline with
    | [] => none
    | second :: rest =>
      if Path.isSlash true first && Path.isSlash true second then some rest else none

/-- The file URL that a text spells after the scheme. A path with a drive letter drops the host. The
text still has its tabs and line ends, which the path has to see. -/
def readFile (text : List Char) : Except UrlFault Url := do
  let make (host : Option Host) (path : Path.Draft) (query fragment : Option (List Char)) : Url :=
    ⟨"file", some (.ofHost host), false, .ofFile path,
      query.map (encodeQuery "file" ∘ Component.strip),
      fragment.map (encodeFragment ∘ Component.strip)⟩
  match afterSlashes? text with
  | some rest =>
    let (host, after) ← readFileHost rest
    let (path, query, fragment) := splitTail after
    -- After a host the path starts at the root, and one slash says so.
    let draft := Path.readFile true (if host.isSome then Path.dropSlash true path else path)
    return make (if draft.onDrive then none else host) draft query fragment
  | none =>
    -- Fewer than two slashes name no host.
    let (path, query, fragment) := splitTail text
    return make none (Path.readFile true (Path.dropSlash true path)) query fragment

/-- Whether a path would be taken for an authority if nothing stood in front of it. -/
def looksLikeAuthority : Path → Bool
  | .segmented ("" :: _ :: _) => true
  | _ => false

/-- The URL without an authority that a text spells after the scheme. -/
def readPlain (scheme : String) (text : List Char) : Url :=
  let (pathText, query, fragment) := splitTail text
  let path :=
    match pathText with
    | '/' :: rest => Path.read false rest
    -- Without a slash at its front the text has no segments and is kept as it is.
    | _ => .whole (Component.encode Component.isPlain pathText)
  ⟨scheme, none, looksLikeAuthority path, path, query.map (encodeQuery scheme),
    fragment.map encodeFragment⟩

/-- The URL that a text spells after a scheme. -/
def readAfterScheme (scheme : String) (text : List Char) : Except UrlFault Url :=
  let stripped := Component.strip text
  if Scheme.isFile scheme then readFile text
  -- A special scheme has an authority, however many slashes stand in front of it.
  else if Scheme.isSpecial scheme then
    readWithAuthority scheme (stripped.dropWhile (Path.isSlash true))
  else match stripped with
    | '/' :: '/' :: rest => readWithAuthority scheme rest
    | _ => .ok (readPlain scheme stripped)

/-- The URL that a text spells. Controls and spaces around it, and tabs and line breaks in it, do
not matter. -/
def read (text : String) : Except UrlFault Url :=
  match splitFirst ':' (Ascii.trim Ascii.isControlOrSpace text.toList) with
  | none => .error .noScheme
  | some (name, rest) =>
    match Scheme.split? (Component.strip name) with
    | some (scheme, none) => readAfterScheme scheme rest
    | _ => .error .noScheme

/-- The URL that a text spells, with the reason for a refusal as an error of the library. -/
def parse (text : String) : Except UrlError Url :=
  (read text).mapError .unreadable

end Url

end Locator
