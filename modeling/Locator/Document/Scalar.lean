import Locator.Document.Basic

/-! What a scalar of YAML holds, by its spelling or by its tag. -/

namespace Locator

namespace Scalar

/-- The truth value that a text spells. -/
def bool? (text : List Char) : Option Bool :=
  if ["true", "True", "TRUE"].contains (String.ofList text) then some true
  else if ["false", "False", "FALSE"].contains (String.ofList text) then some false
  else none

/-- Whether a text spells nothing. -/
def isNull (text : List Char) : Bool :=
  ["null", "Null", "NULL", "~"].contains (String.ofList text)

/-- The value of a digit of up to sixteen. -/
def digit? (radix : Nat) (c : Char) : Option Nat :=
  (Ascii.hexValue? c).filter (· < radix)

/-- The number that digits spell, at least one. -/
def digits? (radix : Nat) (text : List Char) : Option Nat :=
  if text.isEmpty then none
  else (text.mapM (digit? radix)).map fun values =>
    values.foldl (fun total value => radix * total + value) 0

/-- The radix that the letter after a zero stands for. -/
def radix? : Char → Option Nat
  | 'x' => some 16
  | 'o' => some 8
  | 'b' => some 2
  | _ => none

/-- The number that a text without a sign spells in a radix of its own or in decimal digits. -/
def natural? (text : List Char) : Option Nat :=
  match text with
  | '0' :: letter :: digits =>
    match radix? letter with
    | some radix => digits? radix digits
    | none => digits? 10 text
  | _ => digits? 10 text

/-- A text without a sign in front. -/
def unsigned (text : List Char) : List Char :=
  if text.head? = some '+' ∨ text.head? = some '-' then text.drop 1 else text

/-- Whether a text is a zero with more digits after it, which spells no number. -/
def isPadded (text : List Char) : Bool :=
  1 < (unsigned text).length && (unsigned text).head? = some '0'
    && (unsigned text).all Char.isDigit

/-- The integer of up to 128 bits that a text spells, signed or unsigned. -/
def integer? (text : List Char) : Option Scalar :=
  if isPadded text then none
  else
    match natural? (unsigned text) with
    | none => none
    | some n =>
      -- Below zero the ranges reach one number further than above it.
      if text.head? = some '-' then
        if n ≤ 2 ^ 63 then some (.integer (-(n : Int)))
        else if n ≤ 2 ^ 127 then some (.wide (-(n : Int)))
        else none
      else if n < 2 ^ 64 then some (.integer n)
      else if n < 2 ^ 128 then some (.wide n)
      else none

/-- The float that a text spells: an infinity or NaN by name, or a finite number in decimal digits.
-/
def float? (text : List Char) : Option Double :=
  let infinities := [".inf", ".Inf", ".INF"]
  if infinities.contains (String.ofList (unsigned text)) then
    some (.infinite (text.head? = some '-'))
  else if [".nan", ".NaN", ".NAN"].contains (String.ofList text) then some .nan
  else
    -- Other names of infinities and NaN are texts, and so are numbers beyond the finite floats.
    match Double.ofText? text with
    | some (.finite negative significand exponent) => some (.finite negative significand exponent)
    | _ => none

/-- What a plain scalar without a tag holds: nothing, a truth value, a number or else its text. -/
def ofPlain (text : List Char) : Scalar :=
  if text.isEmpty || isNull text then null
  else
    match bool? text, integer? text with
    | some flag, _ => .bool flag
    | none, some number => number
    | none, none =>
      -- Digits behind a needless zero are no float either.
      match if isPadded text then none else float? text with
      | some d => .float d
      | none => .text (.ofList text)

/-- The types that a tag can announce. -/
inductive Announced where
  /-- A truth value. -/
  | bool
  /-- An integer. -/
  | int
  /-- A float. -/
  | float
  /-- Nothing. -/
  | null
  deriving DecidableEq, Repr

/-- The type that a tag announces. -/
def Announced.ofTag? (tag : List Char) : Option Announced :=
  match String.ofList tag with
  | "tag:yaml.org,2002:bool" => some bool
  | "tag:yaml.org,2002:int" => some int
  | "tag:yaml.org,2002:float" => some float
  | "tag:yaml.org,2002:null" => some null
  | _ => none

/-- What error texts call an announced type. -/
def Announced.name : Announced → String
  | bool => "a boolean"
  | int => "an integer"
  | float => "a float"
  | null => "null"

/-- What a text of an announced type holds, if it fits the type. -/
def Announced.read? (text : List Char) : Announced → Option Scalar
  | bool => (bool? text).map .bool
  | int => integer? text
  | float => (float? text).map .float
  | null => if isNull text then some .null else none

/-- What a text under a tag that announces a type holds. -/
def Announced.read (announced : Announced) (text : List Char) : Scalar :=
  (announced.read? text).getD (.misfit (.ofList text) announced.name)

end Scalar

end Locator
