import Locator.Text.Ascii

/-! Binary64 numbers as exact dyadic values, with rounding to the nearest, ties to even. -/

namespace Locator

/-- A binary64 number. -/
inductive Double where
  /-- A sign and the magnitude `significand * 2 ^ exponent`. -/
  | finite (negative : Bool) (significand : Nat) (exponent : Int)
  /-- An infinity. -/
  | infinite (negative : Bool)
  /-- Not a number. -/
  | nan
  deriving DecidableEq, Repr

/-- A non-negative fraction, its parts not reduced. -/
structure Fraction where
  /-- The numerator. -/
  num : Nat
  /-- The denominator, not zero. -/
  den : Nat
  deriving DecidableEq, Repr

namespace Fraction

/-- The fraction `n * base ^ exponent`. -/
def scaled (n base : Nat) (exponent : Int) : Fraction :=
  if 0 ≤ exponent then ⟨n * base ^ exponent.toNat, 1⟩ else ⟨n, base ^ (-exponent).toNat⟩

/-- The product. -/
def mul (a b : Fraction) : Fraction :=
  ⟨a.num * b.num, a.den * b.den⟩

/-- The quotient by a fraction that is not zero. -/
def div (a b : Fraction) : Fraction :=
  ⟨a.num * b.den, a.den * b.num⟩

/-- The nearest natural number; of two equally near, the even one. -/
def round (a : Fraction) : Nat :=
  let quotient := a.num / a.den
  let twice := 2 * (a.num % a.den)
  if twice > a.den ∨ (twice = a.den ∧ quotient % 2 = 1) then quotient + 1 else quotient

end Fraction

namespace Double

/-- The least exponent of a binary64 significand. -/
def minExponent : Int := -1074

/-- The greatest exponent of a finite binary64 number. -/
def maxExponent : Int := 971

/-- The bits of a significand. -/
def precision : Nat := 53

/-- The zero of a sign. -/
def zero (negative : Bool) : Double :=
  finite negative 0 minExponent

/-- Whether a number is zero, of either sign. -/
def isZero : Double → Bool
  | finite _ significand _ => significand = 0
  | _ => false

/-- The number with its sign turned. -/
def negate : Double → Double
  | finite negative significand exponent => finite (!negative) significand exponent
  | infinite negative => infinite (!negative)
  | nan => nan

/-- The exponent at which a positive fraction has a significand of full precision, or the least. -/
def exponentOf (a : Fraction) : Int :=
  -- The logarithms leave two candidates, and one comparison decides between them.
  let guess : Int := (Nat.log2 a.num : Int) - Nat.log2 a.den - precision
  let unit := (a.div (Fraction.scaled 1 2 guess))
  max minExponent (if unit.num / unit.den < 2 ^ precision then guess else guess + 1)

/-- The binary64 number nearest to a fraction of the given sign. -/
def ofFraction (negative : Bool) (a : Fraction) : Double :=
  if a.num = 0 then zero negative
  else
    let exponent := exponentOf a
    let significand := (a.div (Fraction.scaled 1 2 exponent)).round
    if significand < 2 ^ precision then
      if maxExponent < exponent then infinite negative else finite negative significand exponent
    -- Rounding up to the next power of two moves the exponent.
    else if maxExponent < exponent + 1 then infinite negative
    else finite negative (significand / 2) (exponent + 1)

/-- The binary64 number nearest to a natural number. -/
def ofNat (n : Nat) : Double :=
  ofFraction false ⟨n, 1⟩

/-- The magnitude of a finite number. -/
def magnitude? : Double → Option Fraction
  | finite _ significand exponent => some (Fraction.scaled significand 2 exponent)
  | _ => none

/-- The rounded quotient of two non-negative finite numbers, the second not zero. -/
def quotient (a b : Double) : Double :=
  match a.magnitude?, b.magnitude? with
  | some x, some y => ofFraction false (x.div y)
  | _, _ => nan

/-- The rounded product of two non-negative finite numbers. -/
def product (a b : Double) : Double :=
  match a.magnitude?, b.magnitude? with
  | some x, some y => ofFraction false (x.mul y)
  | _, _ => nan

end Double

end Locator
