import Locator.Text.Ascii
import Locator.Yaml.Place

/-! Block scalars: indented lines after an indicator, kept as they are or folded. -/

namespace Locator

/-- What becomes of the line ends after the last line of a block scalar. -/
inductive Chomping where
  /-- None is kept. -/
  | strip
  /-- The first one is kept. -/
  | clip
  /-- All are kept. -/
  | keep
  deriving DecidableEq, Repr

/-- What a block scalar says before its first line. -/
structure BlockHeader where
  /-- What becomes of the last line ends. -/
  chomping : Chomping
  /-- How much deeper the lines stand than what the scalar belongs to, if it says so. -/
  deeper : Option Nat
  deriving DecidableEq, Repr

/-- A line of a block scalar with the line ends after it. -/
structure BlockLine where
  /-- The line without its indentation. -/
  text : List Char
  /-- The end of the line; the last line of a text has none. -/
  ending : List Char
  /-- The ends of the blank lines that follow. -/
  blanks : List Char
  deriving DecidableEq, Repr

namespace BlockHeader

/-- The chomping that an indicator asks for. -/
def chomping? (place : Place) : Option Chomping :=
  if place.char = '+' then some .keep else if place.char = '-' then some .strip else none

/-- An optional indicator of chomping. -/
def readChomping : List Place → Chomping × List Place
  | [] => (.clip, [])
  | place :: rest =>
    match chomping? place with
    | some chomping => (chomping, rest)
    | none => (.clip, place :: rest)

/-- An optional indicator of indentation, a digit from one to nine. -/
def readDeeper? : List Place → Option (Option Nat × List Place)
  | [] => some (none, [])
  | place :: rest =>
    if place.char = '0' then none
    else if place.char.isDigit then some (some (Ascii.digitValue place.char), rest)
    else some (none, place :: rest)

/-- The indicators of a block scalar in either order, and the lines after them. A comment may follow
the indicators. -/
def read? (text : List Place) : Option (BlockHeader × List Place) := do
  let (header, after) ←
    -- The indicator that comes first decides which one may follow.
    if (text.head?.bind chomping?).isSome then do
      let (chomping, more) := readChomping text
      let (deeper, after) ← readDeeper? more
      some (⟨chomping, deeper⟩, after)
    else do
      let (deeper, more) ← readDeeper? text
      match deeper with
      | none => some (⟨.clip, none⟩, more)
      | some _ =>
        let (chomping, after) := readChomping more
        some (⟨chomping, deeper⟩, after)
  let rest := Place.skipLine after
  if Place.opensBreak rest then some (header, Place.skipBreak rest) else none

end BlockHeader

namespace BlockLine

/-- The blank lines and the indentation that a text opens with: the line ends, the greatest column
reached, and the rest. Without a known indentation all spaces belong to it; a tab never does. -/
def readBlanks? (indent : Option Nat) (widest : Nat) :
    List Place → Option (List Char × Nat × List Place)
  | [] => some ([], widest, [])
  | place :: rest =>
    -- With a known indentation only the columns before it are looked at.
    let within := indent.all (place.column < ·)
    if within && place.char = ' ' then readBlanks? indent widest rest
    else if within && place.char = '\t' then none
    else if place.isBreak then
      (readBlanks? indent (max widest place.column) rest).map fun (breaks, reached, after) =>
        (place.char :: breaks, reached, after)
    else some ([], max widest place.column, place :: rest)

/-- Blank lines are read off the front. -/
theorem readBlanks?_length {indent : Option Nat} {widest reached : Nat} {text rest : List Place}
    {breaks : List Char} (found : readBlanks? indent widest text = some (breaks, reached, rest)) :
    rest.length ≤ text.length := by
  -- Every step drops a character or stops.
  induction text generalizing widest breaks reached rest with
  | nil => simp_all [readBlanks?]
  | cons place tail ih =>
    simp only [readBlanks?] at found
    split at found
    · exact Nat.le_succ_of_le (ih found)
    · split at found
      · simp at found
      · split at found
        · obtain ⟨⟨_, _, _⟩, inner, same⟩ := Option.map_eq_some_iff.mp found
          cases same
          exact Nat.le_succ_of_le (ih inner)
        · simp only [Option.some.injEq, Prod.mk.injEq] at found
          simp [← found.2.2]

/-- The lines of a block scalar at a known indentation, and what follows them. -/
def list? (indent : Nat) (text : List Place) : Option (List BlockLine × List Place) :=
  match text with
  | [] => some ([], [])
  | place :: rest =>
    -- A line at any other column belongs to what comes after the scalar.
    if place.column ≠ indent then some ([], place :: rest)
    else
      let line := place.char :: (rest.takeWhile (!·.isBreak)).map Place.char
      match _ : rest.dropWhile (!·.isBreak) with
      | [] => some ([⟨line, [], []⟩], [])
      | ending :: after =>
        match _ : readBlanks? (some indent) 0 after with
        | none => none
        | some (blanks, _, next) =>
          (list? indent next).map fun (more, past) =>
            (⟨line, [ending.char], blanks⟩ :: more, past)
termination_by text.length
decreasing_by
  rename_i _ split _ found
  have dropped := (List.dropWhile_suffix (!Place.isBreak ·) : _ <:+ rest).length_le
  rw [split] at dropped
  have := readBlanks?_length found
  simp only [List.length_cons] at dropped ⊢
  omega

/-- Whether a line opens with a blank, so that it is never folded. -/
def isIndented (line : BlockLine) : Bool :=
  line.text.head?.any fun c => c = ' ' || c = '\t'

/-- What stands between two neighbouring lines. A single line feed folds to a space, unless one of
the lines is indented. -/
def between (folded : Bool) (line next : BlockLine) : List Char :=
  -- Blank lines in between take the place of the space.
  if folded && line.ending = ['\n'] && !line.isIndented && !next.isIndented then
    if line.blanks.isEmpty then [' '] else line.blanks
  else line.ending ++ line.blanks

/-- The text of lines. -/
def join (folded : Bool) (chomping : Chomping) : List BlockLine → List Char
  | [] => []
  | [line] =>
    line.text ++
      match chomping with
      | .strip => []
      | .clip => line.ending
      | .keep => line.ending ++ line.blanks
  | line :: next :: rest =>
    line.text ++ between folded line next ++ join folded chomping (next :: rest)

end BlockLine

namespace BlockScalar

/-- The text of a block scalar and what follows it. The scalar belongs to a block whose lines stand
at `floor` or deeper; the deepest of the first blank lines and the first line otherwise tells how
deep its own lines stand. -/
def read? (folded : Bool) (floor : Nat) (text : List Place) :
    Option (List Char × List Place) := do
  let (header, body) ← BlockHeader.read? text
  let known := header.deeper.map (floor - 1 + ·)
  let (blanks, widest, first) ← BlockLine.readBlanks? known 0 body
  let indent := known.getD (max widest (max floor 1))
  let (lines, rest) ← BlockLine.list? indent first
  -- Blank lines alone are text only where all line ends are kept.
  let opening := if lines.isEmpty && header.chomping ≠ .keep then [] else blanks
  some (opening ++ BlockLine.join folded header.chomping lines, rest)

end BlockScalar

end Locator
