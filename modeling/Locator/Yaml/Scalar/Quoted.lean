import Locator.Text.Ascii
import Locator.Yaml.Gap

/-! Quoted scalars. Single quotes are written twice inside; double quotes know escapes. -/

namespace Locator

namespace QuotedScalar

/-- The text of a single-quoted scalar after a gap, and what follows its closing quote. -/
def readSingle? (gap : Gap) : List Place → Option (List Char × List Place)
  | [] => none
  | place :: rest =>
    if place.isGap then readSingle? (gap.add place) rest
    else if (Place.marker? (place :: rest)).isSome then none
    else if place.char = '\'' then
      match rest with
      | next :: after =>
        if next.char = '\'' then
          (readSingle? .empty after).map fun (more, past) => (gap.text ++ '\'' :: more, past)
        else some (gap.text, next :: after)
      | [] => some (gap.text, [])
    else (readSingle? .empty rest).map fun (more, past) => (gap.text ++ place.char :: more, past)

/-- The character of a single-letter escape. -/
def simpleEscape? : Char → Option Char
  | '0' => some '\x00'
  | 'a' => some '\x07'
  | 'b' => some '\x08'
  | 't' => some '\t'
  | '\t' => some '\t'
  | 'n' => some '\n'
  | 'v' => some '\x0b'
  | 'f' => some '\x0c'
  | 'r' => some '\r'
  | 'e' => some '\x1b'
  | ' ' => some ' '
  | '"' => some '"'
  | '/' => some '/'
  | '\\' => some '\\'
  | 'N' => some '\u0085'
  | '_' => some '\u00a0'
  | 'L' => some '\u2028'
  | 'P' => some '\u2029'
  | _ => none

/-- How many hexadecimal digits follow the letter of an escape by code. -/
def codeLength? : Char → Option Nat
  | 'x' => some 2
  | 'u' => some 4
  | 'U' => some 8
  | _ => none

/-- The character that hexadecimal digits denote; a half of a surrogate pair is none. -/
def codeChar? (digits : List Char) : Option Char :=
  let code := Ascii.hexadecimalValue digits
  if digits.all Ascii.isHexDigit ∧ code.isValidChar then some (Char.ofNat code) else none

/-- The character of an escape, and what follows the escape. The text starts after the backslash. -/
def escape? : List Place → Option (Char × List Place)
  | [] => none
  | letter :: rest =>
    match simpleEscape? letter.char, codeLength? letter.char with
    | some c, _ => some (c, rest)
    | none, some count =>
      let digits := (rest.take count).map Place.char
      if digits.length = count then (codeChar? digits).map fun c => (c, rest.drop count) else none
    | none, none => none

/-- An escape takes up at least one character. -/
theorem escape?_length {text rest : List Place} {c : Char} (found : escape? text = some (c, rest)) :
    rest.length < text.length := by
  -- The letter is dropped, and with it the digits of a code.
  unfold escape? at found
  split at found
  · simp at found
  · split at found
    · simp only [Option.some.injEq, Prod.mk.injEq] at found
      simp [found.2]
    · dsimp only at found
      split at found
      · obtain ⟨_, _, same⟩ := Option.map_eq_some_iff.mp found
        simp only [Prod.mk.injEq] at same
        rw [← same.2, List.length_cons, List.length_drop]
        omega
      · simp at found
    · simp at found

/-- The text of a double-quoted scalar after a gap, and what follows its closing quote. An escaped
line end stands for nothing. -/
def readDouble? (gap : Gap) (text : List Place) : Option (List Char × List Place) :=
  match text with
  | [] => none
  | place :: rest =>
    if place.isGap then readDouble? (gap.add place) rest
    else if (Place.marker? (place :: rest)).isSome then none
    else if place.char = '"' then some (gap.text, rest)
    else if place.char ≠ '\\' then
      (readDouble? .empty rest).map fun (more, past) => (gap.text ++ place.char :: more, past)
    else if rest.head?.any (·.isBreak) then
      (readDouble? (.lines none []) (rest.drop 1)).map fun (more, past) => (gap.text ++ more, past)
    else
      match _ : escape? rest with
      | none => none
      | some (c, after) =>
        (readDouble? .empty after).map fun (more, past) => (gap.text ++ c :: more, past)
termination_by text.length
decreasing_by
  · simp
  · simp
  · simp only [List.length_drop, List.length_cons]
    omega
  · have := escape?_length ‹_›
    simp only [List.length_cons]
    omega

end QuotedScalar

end Locator
