import Locator.Text.Fields
import Locator.Text.Percent

/-! Query strings as ordered name and value pairs, in the form encoding of web pages. -/

namespace Locator

namespace Form

/-- The characters that the form encoding keeps. -/
def isKept (c : Char) : Bool :=
  c.isAlphanum || c = '*' || c = '-' || c = '.' || c = '_'

/-- One character in the form encoding; a space is a plus sign. -/
def encodeChar (c : Char) : List Char :=
  if c = ' ' then ['+'] else Percent.encodeChar isKept c

/-- A name or value in the form encoding. -/
def encode (text : String) : List Char :=
  text.toList.flatMap encodeChar

/-- A name or value read back; bytes that are not UTF-8 become U+FFFD. -/
def decode (text : List Char) : String :=
  -- Plus signs are read before triplets, so that `%2B` is a plus sign in the end.
  .ofList (Utf8.decodeLossy (Percent.decode (text.map fun c => if c = '+' then ' ' else c)))

/-- One written pair. -/
def encodePair (pair : String × String) : List Char :=
  encode pair.1 ++ '=' :: encode pair.2

/-- A query string that lists the pairs in order. -/
def render (pairs : List (String × String)) : String :=
  .ofList (joinFields '&' (pairs.map encodePair))

/-- One pair read back; a text without an equals sign is a name with an empty value. -/
def decodePair (text : List Char) : String × String :=
  match splitFirst '=' text with
  | some (name, value) => (decode name, decode value)
  | none => (decode text, "")

/-- The decoded pairs of a query string in order; empty pieces hold none. -/
def pairs (query : String) : List (String × String) :=
  ((fields '&' query.toList).filter (· ≠ [])).map decodePair

/-- The value of the first pair of a name. -/
def first? (name : String) (pairs : List (String × String)) : Option String :=
  (pairs.find? (·.1 = name)).map (·.2)

/-- Adds a value at the end of its name's group, opening the group when there is none. -/
def addTo (groups : List (String × List String)) (pair : String × String) :
    List (String × List String) :=
  match groups with
  | [] => [(pair.1, [pair.2])]
  | (name, values) :: rest =>
    if name = pair.1 then (name, values ++ [pair.2]) :: rest
    else (name, values) :: addTo rest pair

/-- The values of each name, in order, with the names in order of their first pair. -/
def group (pairs : List (String × String)) : List (String × List String) :=
  pairs.foldl addTo []

/-- The decoded values of a query string, grouped by name. -/
def parseQuery (query : String) : List (String × List String) :=
  group (pairs query)

end Form

end Locator
