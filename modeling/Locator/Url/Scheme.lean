/-! URL schemes: their spelling, and the six with rules of their own. -/

namespace Locator

namespace Scheme

/-- The port that a scheme stands for when a URL names none. -/
def defaultPort? (scheme : String) : Option UInt16 :=
  if scheme = "http" ∨ scheme = "ws" then some 80
  else if scheme = "https" ∨ scheme = "wss" then some 443
  else if scheme = "ftp" then some 21
  else none

/-- The scheme of local files, whose hosts may be missing. -/
def isFile (scheme : String) : Bool :=
  scheme = "file"

/-- The schemes whose hosts are domains or addresses and whose paths may use backslashes. -/
def isSpecial (scheme : String) : Bool :=
  isFile scheme || (defaultPort? scheme).isSome

/-- The special schemes that need a host. -/
def needsHost (scheme : String) : Bool :=
  (defaultPort? scheme).isSome

/-- The characters of a scheme after its first letter. -/
def isCharacter (c : Char) : Bool :=
  c.isAlphanum || c = '+' || c = '-' || c = '.'

/-- The scheme at the front of a text, in lower case, and what follows the colon after it; nothing
follows when the text ends without a colon. -/
def split? (text : List Char) : Option (String × Option (List Char)) :=
  match text with
  | [] => none
  | c :: _ =>
    if c.isAlpha then
      let scheme := String.ofList ((text.takeWhile isCharacter).map Char.toLower)
      match text.dropWhile isCharacter with
      | [] => some (scheme, none)
      | ':' :: rest => some (scheme, some rest)
      | _ => none
    else none

end Scheme

end Locator
