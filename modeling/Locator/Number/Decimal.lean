import Locator.Number.Double
import Locator.Text.Ascii
import Locator.Text.Fields

/-! Decimal texts of binary64 numbers: the shortest that reads back, and the reading of any. -/

namespace Locator

/-- The number of decimal digits of a natural number; zero has one. -/
def digitCount (n : Nat) : Nat :=
  (Nat.toDigits 10 n).length

namespace Fraction

/-- The power of ten of the first digit of a positive fraction. -/
def decimalExponent (a : Fraction) : Int :=
  if a.den ≤ a.num then digitCount (a.num / a.den) - 1
  else -(digitCount ((a.den + a.num - 1) / a.num - 1) : Int)

end Fraction

namespace Double

/-- The values that round to a number of full precision: twice its magnitude with the distances
to the two ends, all in units of half the last place, and whether the ends round to it. -/
structure Neighbourhood where
  /-- The unit in which the other fields count. -/
  unit : Fraction
  /-- The value itself. -/
  middle : Nat
  /-- The least value. -/
  low : Nat
  /-- The greatest value. -/
  high : Nat
  /-- Whether the least and the greatest value belong to it. -/
  closed : Bool

/-- The values that round to a positive finite number. Below a power of two the spacing halves. -/
def neighbourhood (significand : Nat) (exponent : Int) : Neighbourhood :=
  let narrow := significand = 2 ^ (precision - 1) ∧ minExponent < exponent
  ⟨Fraction.scaled 1 2 (exponent - 2), 4 * significand,
    4 * significand - (if narrow then 1 else 2), 4 * significand + 2, significand % 2 = 0⟩

/-- Whether `n * 10 ^ place` lies in the neighbourhood. -/
def Neighbourhood.contains (around : Neighbourhood) (n : Nat) (place : Int) : Bool :=
  let value := (Fraction.scaled n 10 place).div around.unit
  let low := around.low * value.den
  let high := around.high * value.den
  if around.closed then low ≤ value.num ∧ value.num ≤ high
  else low < value.num ∧ value.num < high

/-- Which of two neighbours is taken when they are equally near. -/
inductive Tie where
  /-- The greater one. -/
  | away
  /-- The even one. -/
  | even
  deriving DecidableEq, Repr

/-- The multiple of `10 ^ place` in the neighbourhood that is nearest to the middle. -/
def Neighbourhood.nearest? (around : Neighbourhood) (tie : Tie) (place : Int) : Option Nat :=
  let scaled := (Fraction.mul ⟨around.middle, 1⟩ around.unit).div (Fraction.scaled 1 10 place)
  -- If any multiple lies in the neighbourhood, one of the middle's two neighbours does.
  let below := scaled.num / scaled.den
  let above := below + 1
  let twice := 2 * (scaled.num % scaled.den)
  let keepsBelow := twice < scaled.den ∨ (twice = scaled.den ∧ tie = .even ∧ below % 2 = 0)
  match around.contains below place, around.contains above place with
  | true, true => some (if keepsBelow then below else above)
  | true, false => some below
  | false, true => some above
  | false, false => none

/-- The digits and the place of the last one, for the first digit count from `count` on that has a
decimal in the neighbourhood; `fuel` counts are tried. -/
def Neighbourhood.shortest (around : Neighbourhood) (tie : Tie) (first : Int) :
    (fuel count : Nat) → Nat × Int
  | 0, _ => (0, 0)
  | fuel + 1, count =>
    let place := first - count + 1
    match around.nearest? tie place with
    | some n => (n, place)
    | none => around.shortest tie first fuel (count + 1)

/-- The fewest digits that read back as a positive finite number, and the place of the last one.
Seventeen digits always do. -/
def shortest (tie : Tie) (significand : Nat) (exponent : Int) : Nat × Int :=
  (neighbourhood significand exponent).shortest tie
    (Fraction.scaled significand 2 exponent).decimalExponent 17 1

/-- `n * 10 ^ place` in positional notation, without needless zeros and never with an exponent. -/
def positional (n : Nat) (place : Int) : List Char :=
  let digits := Nat.toDigits 10 n
  if 0 ≤ place then digits ++ List.replicate place.toNat '0'
  else
    let after := (-place).toNat
    -- Zeros in front make sure that a digit stands before the point.
    let padded := List.replicate (after + 1 - digits.length) '0' ++ digits
    let whole := padded.take (padded.length - after)
    let fraction := (padded.drop (padded.length - after)).reverse.dropWhile (· = '0')
    if fraction.isEmpty then whole else whole ++ '.' :: fraction.reverse

/-- The shortest decimal text that reads back, in positional notation. -/
def positionalText (tie : Tie) : Double → String
  | nan => "NaN"
  | infinite negative => if negative then "-inf" else "inf"
  | finite negative significand exponent =>
    let digits :=
      if significand = 0 then ['0']
      else
        let (n, place) := shortest tie significand exponent
        positional n place
    .ofList (if negative then '-' :: digits else digits)

/-- The shortest decimal text that reads back; of two equally near the greater magnitude. -/
def text (d : Double) : String :=
  d.positionalText .away

/-- A positional text, with a decimal point also when the value is whole. -/
def pointed (text : String) : String :=
  if text.toList.contains '.' then text else text ++ ".0"

/-- The shortest text, with a decimal point also when the value is whole. -/
def textWithPoint (d : Double) : String :=
  match d with
  | finite _ _ _ => pointed d.text
  | _ => d.text

/-- The shortest digits with one digit before the point and an exponent that has a sign. -/
def exponential (n : Nat) (place : Int) : List Char :=
  let trimmed := ((Nat.toDigits 10 n).reverse.dropWhile (· = '0')).reverse
  let exponent := place + digitCount n - 1
  trimmed.take 1 ++ (if trimmed.length ≤ 1 then [] else '.' :: trimmed.drop 1)
    ++ 'e' :: (if exponent < 0 then '-' else '+') :: Nat.toDigits 10 exponent.natAbs

/-- The shortest text with a decimal point when the first digit stands at most five places after the
point or sixteen before it, and else with an exponent. Of two equally near the even one is taken. -/
def scientificText (d : Double) : String :=
  match d with
  | finite negative significand exponent =>
    let (n, place) := shortest .even significand exponent
    let first := place + digitCount n
    if significand = 0 ∨ (-5 < first ∧ first ≤ 16) then pointed (d.positionalText .even)
    else
      let digits := exponential n place
      .ofList (if negative then '-' :: digits else digits)
  | _ => d.text

/-- The binary64 number nearest to `n * 10 ^ exponent`. Beyond four hundred places from the point
the answer is an infinity or zero without any arithmetic. -/
def ofDecimal (negative : Bool) (n : Nat) (exponent : Int) : Double :=
  if n = 0 then zero negative
  else if 400 < digitCount n + exponent then infinite negative
  else if digitCount n + exponent < -400 then zero negative
  else ofFraction negative (Fraction.scaled n 10 exponent)

/-- The exponent that a text after the letter `e` spells. -/
def readExponent? (text : List Char) : Option Int :=
  let (negative, digits) :=
    match text with
    | '-' :: rest => (true, rest)
    | '+' :: rest => (false, rest)
    | _ => (false, text)
  if digits ≠ [] ∧ digits.all Char.isDigit then
    some (if negative then -(Ascii.decimalValue digits : Int) else Ascii.decimalValue digits)
  else none

/-- The number that an unsigned decimal text spells: digits with at most one point among them, at
least one digit, and an optional exponent. -/
def readMagnitude? (negative : Bool) (text : List Char) : Option Double :=
  let body := text.takeWhile fun c => c != 'e' && c != 'E'
  let exponent? :=
    match text.dropWhile fun c => c != 'e' && c != 'E' with
    | [] => some 0
    | _ :: rest => readExponent? rest
  let (whole, fraction) := (splitFirst '.' body).getD (body, [])
  -- The digits count as one number, and those after the point lower its exponent.
  let digits := whole ++ fraction
  if digits ≠ [] ∧ digits.all Char.isDigit then
    exponent?.map fun exponent =>
      ofDecimal negative (Ascii.decimalValue digits) (exponent - fraction.length)
  else none

/-- The number that a text spells, correctly rounded. Infinities and NaN are spelt as words of any
case. -/
def ofText? (text : List Char) : Option Double :=
  let (negative, body) :=
    match text with
    | '-' :: rest => (true, rest)
    | '+' :: rest => (false, rest)
    | _ => (false, text)
  let word := String.ofList (body.map Char.toLower)
  if word = "inf" ∨ word = "infinity" then some (infinite negative)
  else if word = "nan" then some nan
  else readMagnitude? negative body

end Double

end Locator
