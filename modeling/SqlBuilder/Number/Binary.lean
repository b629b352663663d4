import SqlBuilder.Number.Rounding

/-!
# Binary floating-point numbers

Numbers of 53 significant bits with the usual exponent range, kept as exact integers: a finite
number is its sign, a significand below `2 ^ 53` and an exponent of two not below `-1074`. The
significand is at least `2 ^ 52` unless the exponent is the least one, so every number has one
representation, up to the sign of zero.
-/

set_option autoImplicit false

namespace SqlBuilder.Number

/-- A binary floating-point number. -/
inductive Binary where
  /-- The result of an undefined operation. -/
  | nan
  /-- An infinity. -/
  | infinite (negative : Bool)
  /-- The number `± significand * 2 ^ exponent`. -/
  | finite (negative : Bool) (significand : Nat) (exponent : Int)
  deriving DecidableEq, Repr, Inhabited

namespace Binary

/-- The exponent of subnormal numbers. -/
def leastExponent : Int := -1074

/-- The greatest exponent of a finite number. -/
def greatestExponent : Int := 971

/-- A zero of either sign. -/
def zero (negative : Bool) : Binary :=
  .finite negative 0 leastExponent

/-- The exponent at which a positive quotient has 53 significant bits, or the least one. -/
def gridExponent (numerator denominator : Nat) : Int :=
  let difference : Int := (numerator.log2 : Int) - denominator.log2
  let power := scale 2 difference (1, 1)
  let exponent :=
    if numerator * power.2 < power.1 * denominator then difference - 53 else difference - 52
  max exponent leastExponent

/-- The number nearest to a quotient; a tie goes to the even significand. -/
def ofRatio (negative : Bool) (numerator denominator : Nat) : Binary :=
  if numerator = 0 then zero negative
  else
    let exponent := gridExponent numerator denominator
    let scaled := scale 2 (-exponent) (numerator, denominator)
    let significand := roundDiv scaled.1 scaled.2
    let (significand, exponent) :=
      if significand = Nat.pow 2 53 then (Nat.pow 2 52, exponent + 1) else (significand, exponent)
    if greatestExponent < exponent then .infinite negative
    else .finite negative significand exponent

/-- The number nearest to `± coefficient * 10 ^ exponent`. -/
def ofDecimal (negative : Bool) (coefficient : Nat) (exponent : Int) : Binary :=
  let magnitude := ((Nat.toDigits 10 coefficient).length : Int) + exponent
  if coefficient = 0 ∨ magnitude < -400 then zero negative
  else if 400 < magnitude then .infinite negative
  else
    let fraction := scale 10 exponent (coefficient, 1)
    ofRatio negative fraction.1 fraction.2

/-- The number nearest to an integer; an integer out of range becomes an infinity. -/
def ofInt (value : Int) : Binary :=
  ofRatio (value < 0) value.natAbs 1

/-- Whether a number is a zero. -/
def isZero : Binary → Bool
  | .finite _ significand _ => significand == 0
  | _ => false

/-- Whether a number is below zero. -/
def isNegative : Binary → Bool
  | .nan => false
  | .infinite negative => negative
  | .finite negative significand _ => negative && significand != 0

/-- The integer part of a finite number. -/
def truncate? : Binary → Option Int
  | .finite negative significand exponent =>
    let fraction := scale 2 exponent (significand, 1)
    let whole : Int := (fraction.1 / fraction.2 : Nat)
    some (if negative then -whole else whole)
  | _ => none

/-- The integer that a number equals, if it equals one. -/
def toInt? (x : Binary) : Option Int :=
  match x with
  | .finite _ significand exponent =>
    let fraction := scale 2 exponent (significand, 1)
    if fraction.1 % fraction.2 = 0 then x.truncate? else none
  | _ => none

end Binary

end SqlBuilder.Number
