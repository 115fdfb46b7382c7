import Locator.Text.Ascii

/-! Punycode: labels with characters beyond ASCII as letters, digits and hyphens. -/

namespace Locator

namespace Punycode

/-- The digit of a value below thirty-six: letters first, then decimal digits. -/
def digit (value : Nat) : Char :=
  if value < 26 then Char.ofNat ('a'.toNat + value) else Char.ofNat ('0'.toNat + (value - 26))

/-- The value of a digit, whatever the case of its letter. -/
def digitValue? (c : Char) : Option Nat :=
  if c.isDigit then some (c.toNat - '0'.toNat + 26)
  else if c.isAlpha then some (c.toLower.toNat - 'a'.toNat)
  else none

/-- The least value that lets a digit at a place go on to the next one. -/
def threshold (bias place : Nat) : Nat :=
  if place ≤ bias then 1 else if bias + 26 ≤ place then 26 else place - bias

/-- Divides a distance by the digit range until it is small, and counts the divisions. -/
def settle (distance : Nat) : Nat × Nat :=
  if 455 < distance then
    let (small, steps) := settle (distance / 35)
    (small, steps + 1)
  else (distance, 0)
termination_by distance
decreasing_by omega

/-- The bias that follows a distance, with the number of characters placed by then. -/
def adapt (distance placed : Nat) (first : Bool) : Nat :=
  let damped := if first then distance / 700 else distance / 2
  let (small, steps) := settle (damped + damped / placed)
  36 * steps + 36 * small / (small + 38)

/-- A threshold leaves at least one value on each side. -/
theorem threshold_bounds (bias place : Nat) :
    1 ≤ threshold bias place ∧ threshold bias place ≤ 26 := by
  -- Between the two clamps the difference itself lies between them.
  unfold threshold
  split
  · omega
  · split <;> omega

/-- The digits of a distance, from a place on. -/
def digits (bias place distance : Nat) : List Char :=
  let t := threshold bias place
  if distance < t then [digit distance]
  else
    digit (t + (distance - t) % (36 - t))
      :: digits bias (place + 36) ((distance - t) / (36 - t))
termination_by distance
decreasing_by
  have := threshold_bounds bias place
  have := Nat.div_le_self (distance - threshold bias place) (36 - threshold bias place)
  omega

/-- Where encoding stands. -/
structure Writer where
  /-- The characters placed so far. -/
  placed : Nat
  /-- The steps since the last placed character. -/
  distance : Nat
  /-- The bias for the next distance. -/
  bias : Nat
  /-- The digits written so far. -/
  written : List Char

/-- Passes one character of the label while characters of the given code are placed. -/
def Writer.pass (basic code : Nat) (writer : Writer) (c : Char) : Writer :=
  if c.toNat < code then { writer with distance := writer.distance + 1 }
  else if c.toNat = code then
    { placed := writer.placed + 1
      distance := 0
      bias := adapt writer.distance (writer.placed + 1) (writer.placed = basic)
      written := writer.written ++ digits writer.bias 36 writer.distance }
  else writer

/-- Places all characters of the given codes in increasing order, the first at least `least`. -/
def Writer.place (label : List Char) (basic : Nat) (writer : Writer) (least : Nat) :
    List Nat → Writer
  | [] => writer
  | code :: rest =>
    -- All codes in between are skipped for every position at once.
    let moved := { writer with distance := writer.distance + (code - least) * (writer.placed + 1) }
    let passed := label.foldl (Writer.pass basic code) moved
    { passed with distance := passed.distance + 1 }.place label basic (code + 1) rest

/-- A label in letters, digits and hyphens: its ASCII characters, then the places of the others. -/
def encode (label : List Char) : List Char :=
  let basic := label.filter (·.toNat < 0x80)
  let codes := ((label.map Char.toNat).filter (0x80 ≤ ·)).mergeSort.eraseDups
  let writer : Writer := ⟨basic.length, 0, 72, []⟩
  basic ++ (if basic.isEmpty then [] else ['-'])
    ++ (writer.place label basic.length 0x80 codes).written

/-- A distance read from digits, from a place on and with the weight of that place, with the text
after it. -/
def readDistance? (bias place weight : Nat) : List Char → Option (Nat × List Char)
  | [] => none
  | c :: rest => do
    let value ← digitValue? c
    let t := threshold bias place
    if value < t then some (value * weight, rest)
    else
      let (more, after) ← readDistance? bias (place + 36) (weight * (36 - t)) rest
      some (value * weight + more, after)

/-- Reading a distance drops at least one digit. -/
theorem readDistance?_length {bias place weight distance : Nat} {text after : List Char}
    (found : readDistance? bias place weight text = some (distance, after)) :
    after.length < text.length := by
  -- The last digit is dropped, and every digit before it too.
  induction text generalizing place weight distance with
  | nil => simp [readDistance?] at found
  | cons c rest ih =>
    simp only [readDistance?, Option.bind_eq_bind, Option.bind_eq_some_iff] at found
    obtain ⟨value, _, step⟩ := found
    split at step
    · simp only [Option.some.injEq, Prod.mk.injEq] at step
      simp [step.2]
    · simp only [Option.bind_eq_some_iff, Option.some.injEq, Prod.mk.injEq, Prod.exists] at step
      obtain ⟨_, _, inner, _, rfl⟩ := step
      have := ih inner
      simp only [List.length_cons]
      omega

/-- Places characters by the distances that the text spells, from a code and a position on. -/
def readPlaces? (bias code position : Nat) (placed : List Char) (text : List Char) :
    Option (List Char) :=
  match text with
  | [] => some placed
  | c :: rest =>
    match _ : readDistance? bias 36 1 (c :: rest) with
    | none => none
    | some (distance, after) =>
      let count := placed.length + 1
      -- A distance counts whole rounds over the placed characters, and every round is a code.
      let next := code + (position + distance) / count
      let slot := (position + distance) % count
      if next.isValidChar then
        readPlaces? (adapt distance count (placed.all (·.toNat < 0x80))) next (slot + 1)
          (placed.insertIdx slot (Char.ofNat next)) after
      else none
termination_by text.length
decreasing_by exact readDistance?_length ‹_›

/-- The label that a text in letters, digits and hyphens spells. -/
def decode? (text : List Char) : Option (List Char) :=
  let ending := text.reverse.takeWhile (· ≠ '-')
  let basic := (text.reverse.drop (ending.length + 1)).reverse
  -- A hyphen with nothing in front of it belongs to the digits, where no hyphen may stand.
  readPlaces? 72 0x80 0 basic (if basic.isEmpty then text else ending.reverse)

end Punycode

end Locator
