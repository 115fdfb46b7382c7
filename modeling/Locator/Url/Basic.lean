import Locator.Url.Host
import Locator.Url.Path
import Locator.Url.Scheme

/-! Absolute URLs by their components, and their written form. -/

namespace Locator

/-- Who and where: what stands between the two slashes and the path. -/
structure Authority where
  /-- The user name; empty when there is none. -/
  username : String
  /-- The password; empty when there is none. -/
  password : String
  /-- The host, which some schemes may leave out. -/
  host : Option Host
  /-- The port, when it is not the default one of the scheme. -/
  port : Option UInt16
  deriving DecidableEq, Repr

/-- An absolute URL. -/
structure Url where
  /-- The scheme in lower case. -/
  scheme : String
  /-- The authority. -/
  authority : Option Authority
  /-- Whether `/.` stands in front of the path, so that it cannot be taken for an authority. -/
  guarded : Bool
  /-- The path. -/
  path : Path
  /-- The query. -/
  query : Option String
  /-- The fragment. -/
  fragment : Option String
  deriving DecidableEq, Repr

namespace Authority

/-- An authority with nothing but a host. -/
def ofHost (host : Option Host) : Authority :=
  ⟨"", "", host, none⟩

/-- The user name and the password as they stand before the host. -/
def credentials (authority : Authority) : String :=
  if authority.username.isEmpty && authority.password.isEmpty then ""
  else
    authority.username
      ++ (if authority.password.isEmpty then "" else ":" ++ authority.password) ++ "@"

/-- The written form, without the slashes in front. -/
def text (authority : Authority) : String :=
  authority.credentials ++ ((authority.host.map Host.text).getD "")
    ++ match authority.port with
      | none => ""
      | some port => ":" ++ Nat.repr port.toNat

end Authority

namespace Url

/-- The written form. -/
def text (url : Url) : String :=
  url.scheme ++ ":"
    ++ (match url.authority with
      | none => ""
      | some authority => "//" ++ authority.text)
    ++ (if url.guarded then "/." else "") ++ url.path.text
    ++ (match url.query with
      | none => ""
      | some query => "?" ++ query)
    ++ (match url.fragment with
      | none => ""
      | some fragment => "#" ++ fragment)

/-- The host. -/
def host? (url : Url) : Option Host :=
  url.authority.bind Authority.host

/-- The host's text. -/
def hostText? (url : Url) : Option String :=
  url.host?.map Host.text

/-- The port that the URL names, or else the default one of its scheme. -/
def port? (url : Url) : Option UInt16 :=
  (url.authority.bind Authority.port).orElse fun _ => Scheme.defaultPort? url.scheme

/-- The path's text. -/
def pathText (url : Url) : String :=
  url.path.text

/-- The path segments that are not empty, still encoded. -/
def pathSegments (url : Url) : List String :=
  ((fields '/' url.pathText.toList).filter (· ≠ [])).map .ofList

/-- The labels of the host. -/
def labels (url : Url) : List String :=
  match url.hostText? with
  | none => []
  | some host => (fields '.' host.toList).map .ofList

end Url

end Locator
