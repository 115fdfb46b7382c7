import Locator.Text.Percent

/-! The characters that each component of a URL keeps; all others are percent-encoded. -/

namespace Locator

namespace Component

/-- The printable characters of ASCII and the space. -/
def isPlain (c : Char) : Bool :=
  0x20 ≤ c.toNat && c.toNat ≤ 0x7E

/-- Kept in a fragment. -/
def inFragment (c : Char) : Bool :=
  isPlain c && !" \"<>`".toList.contains c

/-- Kept in a query; an apostrophe only where the scheme is not special. -/
def inQuery (special : Bool) (c : Char) : Bool :=
  isPlain c && !" \"#<>".toList.contains c && !(special && c = '\'')

/-- Kept in a path segment. -/
def inPath (c : Char) : Bool :=
  inFragment c && !"#?\x7b\x7d".toList.contains c

/-- Kept in a user name or password. -/
def inUserinfo (c : Char) : Bool :=
  inPath c && !"/:;=@[\\]^|".toList.contains c

/-- A component's text with what it does not keep percent-encoded. -/
def encode (kept : Char → Bool) (text : List Char) : String :=
  .ofList (Percent.encode kept text)

/-- A text without tabs and line breaks, which a URL ignores. -/
def strip (text : List Char) : List Char :=
  text.filter fun c => !Ascii.isTabOrNewline c

end Component

end Locator
