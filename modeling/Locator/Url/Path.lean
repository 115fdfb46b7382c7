import Locator.Text.Fields
import Locator.Url.Component

/-! Paths of URLs: segments, with dot segments resolved as they are read. -/

namespace Locator

/-- The path of a URL. -/
inductive Path where
  /-- One text without segments, as in `mailto:` URLs. -/
  | whole (text : String)
  /-- Segments, each written after a slash. -/
  | segmented (segments : List String)
  deriving DecidableEq, Repr

namespace Path

/-- The written form. -/
def text : Path → String
  | whole text => text
  | segmented segments => .ofList (segments.flatMap fun segment => '/' :: segment.toList)

/-- Whether a segment spells a single dot. -/
def isSingleDot (segment : List Char) : Bool :=
  [".", "%2e", "%2E"].contains (String.ofList segment)

/-- Whether a segment spells two dots. -/
def isDoubleDot (segment : List Char) : Bool :=
  ["..", "%2e%2e", "%2e%2E", "%2E%2e", "%2E%2E", "%2e.", "%2E.", ".%2e", ".%2E"].contains
    (String.ofList segment)

/-- Whether a segment is a drive letter with its colon or bar. -/
def isDrive : List Char → Bool
  | [letter, mark] => letter.isAlpha && (mark = ':' || mark = '|')
  | _ => false

/-- Whether two dots leave a segment alone because it starts with a drive letter. -/
def holdsDrive : List Char → Bool
  | letter :: mark :: rest =>
    isDrive [letter, mark] && (rest.isEmpty || rest.head? = some '\\')
  | _ => false

/-- The pieces that remain after two dots, the last one first. The outermost piece stays. -/
def ascend : List (List Char) → List (List Char)
  | [] => []
  | [root] => [root]
  | piece :: above => if holdsDrive piece then piece :: above else above

/-- A drive letter and what follows it in one segment, when tabs or line ends stand between the
colon and the rest. -/
def cutDrive? (text : List Char) : Option (List Char × List Char) :=
  match text.dropWhile Ascii.isTabOrNewline with
  | [] => none
  | letter :: more =>
    match more.dropWhile Ascii.isTabOrNewline with
    | ':' :: after =>
      let rest := Component.strip after
      if letter.isAlpha && after.head?.any Ascii.isTabOrNewline && !rest.isEmpty then
        some ([letter, ':'], rest)
      else none
    | _ => none

/-- The two pieces that a segment of a file path falls into behind a drive letter: right below the
root, or after one other character where the path has no root. -/
def cut? (before : List (List Char)) (text : List Char) : Option (List Char × List Char) :=
  match before with
  | [[]] => cutDrive? text
  | [] =>
    match text.dropWhile Ascii.isTabOrNewline with
    | [] => none
    | c :: rest =>
      if Component.inPath c then (cutDrive? rest).map fun (drive, inner) => (c :: drive, inner)
      else none
  | _ => none

/-- A path as far as it is resolved. -/
structure Draft where
  /-- The encoded pieces, the last one first. -/
  pieces : List (List Char)
  /-- Whether a segment right below the root is a drive letter. -/
  onDrive : Bool
  deriving DecidableEq, Repr

namespace Draft

/-- Nothing but the root. -/
def root : Draft := ⟨[[]], false⟩

/-- Nothing at all. -/
def empty : Draft := ⟨[], false⟩

/-- Adds an empty piece if nothing follows, so that the path ends in a slash. -/
def closeBefore (draft : Draft) (rest : List (List Char)) : Draft :=
  if rest.isEmpty then { draft with pieces := [] :: draft.pieces } else draft

/-- Adds a segment that is no dots. In a file path the bar of a leading drive letter turns into a
colon. -/
def add (file : Bool) (draft : Draft) (segment : List Char) : Draft :=
  let piece := Percent.encode Component.inPath (Component.strip segment)
  match if file then cut? draft.pieces segment else none with
  | some (outer, inner) =>
    -- The rest behind a cut is a piece of its own, also when it is dots.
    { draft with pieces := Percent.encode Component.inPath inner :: outer :: draft.pieces }
  | none =>
    if file && draft.pieces = [[]] && isDrive piece then
      ⟨(piece.take 1 ++ [':']) :: draft.pieces, true⟩
    else { draft with pieces := piece :: draft.pieces }

/-- Resolves segments in order. Dots at the end leave an empty piece. -/
def resolve (file : Bool) (draft : Draft) : List (List Char) → Draft
  | [] => draft
  | segment :: rest =>
    let piece := Component.strip segment
    if isDoubleDot piece then
      resolve file ({ draft with pieces := ascend draft.pieces }.closeBefore rest) rest
    else if isSingleDot piece then resolve file (draft.closeBefore rest) rest
    else resolve file (draft.add file segment) rest

end Draft

/-- Whether a character separates segments. -/
def isSlash (special : Bool) (c : Char) : Bool :=
  c = '/' || (special && c = '\\')

/-- A text with every segment separator written as a slash. -/
def unifySlashes (special : Bool) (text : List Char) : List Char :=
  text.map fun c => if isSlash special c then '/' else c

/-- The segments of a path text as they are written. -/
def segments (special : Bool) (text : List Char) : List (List Char) :=
  fields '/' (unifySlashes special text)

/-- A text without one leading segment separator. -/
def dropSlash (special : Bool) (text : List Char) : List Char :=
  match text.dropWhile Ascii.isTabOrNewline with
  | c :: rest => if isSlash special c then rest else text
  | [] => []

/-- The path that a text spells below the root, in a scheme that is not that of files. -/
def read (special : Bool) (text : List Char) : Path :=
  segmented (((Draft.root.resolve false (segments special text)).pieces.reverse.drop 1).map .ofList)

/-- A file path, below the root or as it stands, as far as it is resolved. Here tabs and line ends
are still in the text, because a drive letter may end at one. -/
def readFile (rooted : Bool) (text : List Char) : Draft :=
  (if rooted then Draft.root else Draft.empty).resolve true (segments true text)

/-- The path of a resolved file path; empty pieces at the front are dropped. -/
def ofFile (draft : Draft) : Path :=
  match draft.pieces.reverse.dropWhile List.isEmpty with
  | [] => segmented [""]
  | kept => segmented (kept.map .ofList)

end Path

end Locator
