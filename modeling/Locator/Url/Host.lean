import Locator.Url.Component
import Locator.Url.Error
import Locator.Url.Host.Ipv4
import Locator.Url.Host.Ipv6
import Locator.Url.Host.Label

/-! Hosts: domains and addresses under special schemes, and any other name elsewhere. -/

namespace Locator

/-- The host of a URL. -/
inductive Host where
  /-- A domain, or a name under a scheme without rules for hosts. -/
  | name (name : String)
  /-- An IPv4 address. -/
  | ipv4 (address : Ipv4)
  /-- An IPv6 address. -/
  | ipv6 (address : Ipv6)
  deriving DecidableEq, Repr

namespace Host

/-- The written form; an IPv6 address stands in brackets. -/
def text : Host → String
  | name written => written
  | ipv4 address => .ofList address.text
  | ipv6 address => .ofList ('[' :: address.text ++ [']'])

/-- The characters that no domain may have. -/
def isForbiddenInDomain (c : Char) : Bool :=
  c.toNat ≤ 0x20 || c.toNat = 0x7F || "#/:<>?@[\\]^|%".toList.contains c

/-- The characters that no host of a scheme without rules may have. -/
def isForbiddenInName (c : Char) : Bool :=
  c = '\x00' || "\t\n\r #/:<>?@[\\]^|".toList.contains c

/-- A percent-decoded domain by what its characters mean and in ASCII, if it is one. -/
def domainToAscii? (bytes : List UInt8) : Option (List Char) := do
  let text ← Utf8.decode? bytes
  -- Meanings come first: a dot or the mark of an encoded label is known in any of its forms.
  let folded ← Label.fold? text
  let labels ← (fields '.' folded).mapM Label.read?
  let domain := joinFields '.' (labels.map Label.write)
  if domain.any isForbiddenInDomain || !Label.areAligned labels then none else some domain

/-- The address between brackets. -/
def readBracketed (text : List Char) : Except UrlFault Host :=
  if text.getLast? = some ']' ∧ 2 ≤ text.length then
    match Ipv6.read? (text.drop 1).dropLast with
    | some address => .ok (ipv6 address)
    | none => .error .invalidIpv6
  else .error .invalidIpv6

/-- The host that a text spells under a special scheme. -/
def readSpecial (text : List Char) : Except UrlFault Host :=
  if text.head? = some '[' then readBracketed text
  else match domainToAscii? (Percent.decode text) with
    | none => .error .invalidDomain
    | some domain =>
      if domain = [] then .error .emptyHost
      -- A domain that ends in a number is an address or none at all.
      else if Ipv4.endsInNumber domain then
        match Ipv4.read? domain with
        | some address => .ok (ipv4 address)
        | none => .error .invalidIpv4
      else .ok (name (.ofList domain))

/-- The host that a text spells under any other scheme; an empty text spells none. -/
def readOther (text : List Char) : Except UrlFault (Option Host) :=
  if text.head? = some '[' then (readBracketed text).map some
  else if text.any isForbiddenInName then .error .invalidHostCharacter
  else if text = [] then .ok none
  else .ok (some (name (Component.encode Component.isPlain text)))

/-- The host that a text spells under a scheme that is special or not. -/
def read (special : Bool) (text : List Char) : Except UrlFault (Option Host) :=
  if special then (readSpecial text).map some else readOther text

end Host

end Locator
