/-! What can be wrong with a URL and with a change to one. -/

namespace Locator

/-- Why a text is not a URL or not a host. -/
inductive UrlFault where
  /-- The host is empty where there has to be one. -/
  | emptyHost
  /-- The port is not a number of 16 bits. -/
  | invalidPort
  /-- The host ends in a number but is not an IPv4 address. -/
  | invalidIpv4
  /-- The host is bracketed but not an IPv6 address. -/
  | invalidIpv6
  /-- The host of a scheme without rules for hosts has a character that no host may have. -/
  | invalidHostCharacter
  /-- The host is not a domain name. -/
  | invalidDomain
  /-- The text has no scheme. -/
  | noScheme
  /-- The URL has a path that is one text, so it cannot have a host. -/
  | noPlaceForHost
  deriving DecidableEq, Repr

/-- Why a URL is refused. -/
inductive UrlError where
  /-- A text is not a URL, or not a host. -/
  | unreadable (fault : UrlFault)
  /-- The URL cannot have the scheme. -/
  | badScheme (scheme : String)
  /-- The URL cannot have the port. -/
  | badPort (port : UInt16)
  /-- There are not so many path segments. -/
  | noSegment (index count : Nat)
  /-- There are not so many host labels. -/
  | noLabel (index count : Nat)
  deriving DecidableEq, Repr

/-- Why a text is not a URL, in words. -/
def UrlFault.message : UrlFault → String
  | emptyHost => "empty host"
  | invalidPort => "invalid port number"
  | invalidIpv4 => "invalid IPv4 address"
  | invalidIpv6 => "invalid IPv6 address"
  | invalidHostCharacter => "invalid domain character"
  | invalidDomain => "invalid international domain name"
  | noScheme => "relative URL without a base"
  | noPlaceForHost => "a cannot-be-a-base URL doesn’t have a host to set"

/-- Why a URL is refused, in words. -/
def UrlError.message : UrlError → String
  | unreadable fault => "Invalid URL: " ++ fault.message
  | badScheme scheme => "Invalid URL component: scheme '" ++ scheme ++ "'"
  | badPort port => "Invalid URL component: port " ++ Nat.repr port.toNat
  | noSegment index count =>
    "Path segment index " ++ Nat.repr index ++ " out of range (" ++ Nat.repr count ++ " segments)"
  | noLabel index count =>
    "Subdomain index " ++ Nat.repr index ++ " out of range (" ++ Nat.repr count ++ " labels)"

end Locator
