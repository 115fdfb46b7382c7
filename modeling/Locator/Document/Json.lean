import Locator.Document.Basic
import Locator.Json.Draft

/-! JSON texts as documents. -/

namespace Locator

namespace JsonNumber

/-- How many final digits have to go for a number to fit in 64 bits. -/
def overlong (n : Nat) : Nat :=
  if n < 2 ^ 64 then 0 else overlong (n / 10) + 1
termination_by n
decreasing_by
  have : 2 ^ 64 ≤ n := Nat.le_of_not_lt ‹_›
  omega

/-- Adds fraction digits to a significand as long as it fits in 64 bits; the second number counts
those added. -/
def addFraction (significand : Nat) : List (Fin 10) → Nat × Nat
  | [] => (significand, 0)
  | digit :: rest =>
    if 10 * significand + digit.val < 2 ^ 64 then
      let (total, count) := addFraction (10 * significand + digit.val) rest
      (total, count + 1)
    else (significand, 0)

/-- The power of ten that is exact enough to scale by in one step. -/
def maxScale : Nat := 308

/-- A significand divided by a power of ten, in steps that each round. -/
def scaleDown (significand : Double) (places : Nat) : Double :=
  if significand.isZero then significand
  else if places ≤ maxScale then significand.quotient (.ofNat (10 ^ places))
  else scaleDown (significand.quotient (.ofNat (10 ^ maxScale))) (places - maxScale)
termination_by places
decreasing_by
  simp only [maxScale] at *
  omega

/-- A significand of 64 bits scaled by a power of ten. Both are rounded before the scaling rounds
again; a result beyond the finite numbers is none. -/
def scale? (significand : Nat) (exponent : Int) : Option Double :=
  let start := Double.ofNat significand
  if start.isZero then some start
  else if exponent < 0 then some (scaleDown start exponent.natAbs)
  else if maxScale < exponent.toNat then none
  else match start.product (.ofNat (10 ^ exponent.toNat)) with
    | .infinite _ => none
    | d => some d

/-- The float that a number denotes, as far as its first digits that fit in 64 bits tell. -/
def toDouble? (number : JsonNumber) : Option Double :=
  let dropped := overlong number.whole
  let (significand, added) := addFraction (number.whole / 10 ^ dropped) number.fraction
  -- A digit that is dropped before the point counts up, and one that is added behind it down.
  let exponent := number.exponent.getD 0 + (dropped : Int) - added
  (scale? significand exponent).map fun d => if number.negative then d.negate else d

/-- What a number holds: an integer when it is written as one, fits in 64 bits and is not `-0`, else
a float. Too large numbers hold nothing. -/
def scalar? (number : JsonNumber) : Option Scalar :=
  let whole := number.fraction.isEmpty && number.exponent.isNone
  if whole && !number.negative && decide (number.whole < 2 ^ 64) then
    some (.integer number.whole)
  else if whole && number.negative && decide (0 < number.whole ∧ number.whole ≤ 2 ^ 63) then
    some (.integer (-(number.whole : Int)))
  else number.toDouble?.map .float

end JsonNumber

namespace Document

/-- A JSON number as a document; a number beyond the floats is not JSON here. -/
def ofJsonNumber (number : JsonNumber) : Document :=
  match number.scalar? with
  | some held => scalar (some (.ofList number.write)) held
  | none => fault .malformed

/-- A JSON string as a document; a string with half of a surrogate pair is not JSON here. -/
def ofJsonString : Option String → Document
  | some text => scalar (some text) (.text text)
  | none => fault .malformed

/-- How many collections may stand inside one another in JSON. -/
def jsonDepth : Nat := 127

mutual

/-- A JSON value as a document in which collections go no deeper than the given depth. -/
def ofDraft (depth : Nat) : JsonDraft → Document
  | .null => scalar (some "null") .null
  | .bool flag => scalar (some (if flag then "true" else "false")) (.bool flag)
  | .number number => ofJsonNumber number
  | .string text => ofJsonString text
  | .array items => if depth = 0 then fault .malformed else sequence (ofDrafts (depth - 1) items)
  | .object members =>
    if depth = 0 then fault .malformed else mapping (ofMembers (depth - 1) members)
  | .cut => fault .malformed

/-- The items of an array. -/
def ofDrafts (depth : Nat) : List JsonDraft → List Document
  | [] => []
  | item :: rest => ofDraft depth item :: ofDrafts depth rest

/-- The members of an object. -/
def ofMembers (depth : Nat) :
    List (Option String × JsonDraft) → List (Option String × Document × Document)
  | [] => []
  | (key, value) :: rest =>
    (key, ofJsonString key, ofDraft depth value) :: ofMembers depth rest

end

/-- Reads a JSON text: first what its value means, left to right, and then that nothing follows. -/
def readJson {α : Type} (interpret : Document → Except ReadError α) (text : String) :
    Except ReadError α := do
  let (draft, rest) := JsonDraft.read text
  let meaning ← interpret (ofDraft jsonDepth draft)
  if rest.isEmpty then return meaning else throw ⟨[], .fault .malformed⟩

end Document

end Locator
