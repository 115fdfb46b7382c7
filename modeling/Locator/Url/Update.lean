import Locator.Text.Form
import Locator.Url.Reading

/-! Changing one component of a URL. Every change gives a new URL or says why there is none. -/

namespace Locator

namespace Url

/-- Whether a scheme can take the place of another: both special or both not, never that of files,
and with a host where it needs one. -/
def accepts (url : Url) (scheme : String) : Bool :=
  Scheme.isSpecial scheme = Scheme.isSpecial url.scheme
    && !(Scheme.isFile scheme && url.authority.isSome)
    && (url.host?.isSome || !Scheme.isSpecial scheme)

/-- A port as a URL of a scheme holds it: none when it is the default one. -/
def keptPort (scheme : String) (port : Option UInt16) : Option UInt16 :=
  if port = Scheme.defaultPort? scheme then none else port

/-- The URL with another scheme; a colon may end it. A port that is the default one of the new
scheme is dropped. -/
def withScheme (url : Url) (text : String) : Except UrlError Url :=
  match Scheme.split? (Component.strip text.toList) with
  | some (scheme, rest) =>
    -- Nothing may follow the scheme but the colon.
    if (rest.getD []).isEmpty && url.accepts scheme then
      let authority := url.authority.map fun a =>
        if a.host.isSome && !Scheme.isFile scheme then { a with port := keptPort scheme a.port }
        else a
      .ok { url with scheme, authority }
    else .error (.badScheme text)
  | none => .error (.badScheme text)

/-- The part of a text that names a host: all of it in brackets, else what stands before a colon. A
colon at the front names none. -/
def hostPart? (text : List Char) : Option (List Char) :=
  if text.head? = some '[' ∧ text.getLast? = some ']' then some text
  else match splitFirst ':' text with
    | none => some text
    | some ([], _) => none
    | some (host, _) => some host

/-- The URL with another host; everything else of the authority stays. -/
def withHost (url : Url) (text : String) : Except UrlError Url :=
  match url.path with
  -- A path without segments leaves no room for an authority.
  | .whole _ => .error (.unreadable .noPlaceForHost)
  | .segmented _ =>
    if Scheme.needsHost url.scheme ∧ text.isEmpty then .error (.unreadable .emptyHost)
    else match hostPart? text.toList with
      | none => .error (.unreadable .invalidHostCharacter)
      | some part =>
        match Host.read (Scheme.isSpecial url.scheme) part with
        | .error fault => .error (.unreadable fault)
        | .ok host =>
          -- The user, the password and the port stay; a URL without them gets a bare host.
          let authority :=
            match url.authority with
            | some a => { a with host }
            | none => .ofHost host
          .ok { url with authority := some authority }

/-- The URL with another port; the scheme's default port is not kept. A URL without a host and
a file URL take none. A guard in front of the path does not outlast a change of the port. -/
def withPort (url : Url) (port : UInt16) : Except UrlError Url :=
  match url.authority with
  | some authority =>
    if authority.host.isSome && !Scheme.isFile url.scheme then
      let kept := keptPort url.scheme (some port)
      if kept = authority.port then .ok url
      else .ok { url with authority := some { authority with port := kept }, guarded := false }
    else .error (.badPort port)
  | none => .error (.badPort port)

/-- A text as a path in place of one without segments: a slash at its front is encoded. A slash that
only tabs and line breaks precede is not, and makes it a path of segments. -/
def wholePath (text : List Char) : Path :=
  match text with
  | '/' :: rest => .whole ("%2F" ++ Component.encode Component.isPlain (Component.strip rest))
  | _ =>
    let plain := Component.encode Component.isPlain (Component.strip text)
    match plain.toList with
    | '/' :: rest => .segmented ((fields '/' rest).map .ofList)
    | _ => .whole plain

/-- A text as a path of segments in a scheme that is not special. A question mark or number sign at
the front leaves no path. -/
def plainPath (text : List Char) : Path :=
  if text.isEmpty || text.head? = some '?' || text.head? = some '#' then .segmented []
  else Path.read false (Path.dropSlash false text)

/-- A text as the path of a file URL. Without a host the first piece need not be below the root. -/
def filePath (named : Bool) (text : List Char) : Path :=
  let rooted := named ||
    (text.dropWhile Ascii.isTabOrNewline).head?.any (Path.isSlash true)
  .ofFile (Path.readFile rooted (if rooted then Path.dropSlash true text else text))

/-- The path that a text spells in place of the URL's own. -/
def readPath (url : Url) (text : List Char) : Path :=
  match url.path with
  | .whole _ => wholePath text
  | .segmented _ =>
    let stripped := Component.strip text
    if Scheme.isFile url.scheme then filePath url.host?.isSome text
    else if Scheme.isSpecial url.scheme then Path.read true (Path.dropSlash true stripped)
    else plainPath stripped

/-- Whether the path stands right after the scheme. -/
def startsWithPath (url : Url) : Bool :=
  url.authority.isNone && !url.guarded

/-- The URL with another path; a path of segments starts at the root. An empty path right after the
scheme has no segments and is one text. -/
def withPath (url : Url) (text : String) : Url :=
  let path := url.readPath text.toList
  if url.startsWithPath && path.text.isEmpty then { url with path := .whole "" }
  else { url with path }

/-- The URL with another query. -/
def withQuery (url : Url) (text : String) : Url :=
  { url with query := some (encodeQuery url.scheme (Component.strip text.toList)) }

/-- The URL with another fragment. -/
def withFragment (url : Url) (text : String) : Url :=
  { url with fragment := some (encodeFragment (Component.strip text.toList)) }

/-- The path text of segments, with a slash at the end when asked for. -/
def pathOfSegments (segments : List String) (closed : Bool) : String :=
  "/" ++ .ofList (joinFields '/' (segments.map String.toList)) ++ if closed then "/" else ""

/-- The URL with one of its non-empty path segments replaced; a slash at the end stays. -/
def withPathSegment (url : Url) (index : Nat) (text : String) : Except UrlError Url :=
  let segments := url.pathSegments
  if index < segments.length then
    .ok (url.withPath (pathOfSegments (segments.set index text)
      (url.pathText.toList.getLast? = some '/')))
  else .error (.noSegment index segments.length)

/-- The URL with one label of its host replaced. -/
def withLabel (url : Url) (index : Nat) (text : String) : Except UrlError Url :=
  let labels := url.labels
  if index < labels.length then
    url.withHost (.ofList (joinFields '.' ((labels.set index text).map String.toList)))
  else .error (.noLabel index labels.length)

/-- The decoded pairs of the query in order. -/
def queryPairs (url : Url) : List (String × String) :=
  Form.pairs (url.query.getD "")

/-- The decoded values of the query, grouped by name. -/
def queryGroups (url : Url) : List (String × List String) :=
  Form.parseQuery (url.query.getD "")

/-- The first decoded value of a name in the query. -/
def queryValue? (url : Url) (name : String) : Option String :=
  Form.first? name url.queryPairs

/-- The URL with a query of the given pairs. -/
def withQueryPairs (url : Url) (pairs : List (String × String)) : Url :=
  { url with query := some (Form.render pairs) }

/-- The URL with a single value of a name in its query, at the end. -/
def withQueryValue (url : Url) (name value : String) : Url :=
  url.withQueryPairs (url.queryPairs.filter (·.1 ≠ name) ++ [(name, value)])

end Url

end Locator
