import SqlBuilder.Number.Binary

/-!
# Decimal numbers

A decimal keeps its coefficient and its exponent apart, so `1.10` and `1.1` are equal numbers with
different texts. The text is positional while the exponent is not positive and at most six zeros
follow the point, and scientific otherwise.
-/

set_option autoImplicit false

namespace SqlBuilder.Number

/-- A decimal number. -/
inductive Decimal where
  /-- The number `± coefficient * 10 ^ exponent`. -/
  | finite (negative : Bool) (coefficient : Nat) (exponent : Int)
  /-- An infinity. -/
  | infinite (negative : Bool)
  /-- An undefined number, signalling or quiet, with a diagnostic number. -/
  | nan (negative signalling : Bool) (payload : Nat)
  deriving DecidableEq, Repr, Inhabited

namespace Decimal

/-- Whether a number is a zero. -/
def isZero : Decimal → Bool
  | .finite _ coefficient _ => coefficient == 0
  | _ => false

/-- Whether a number is below zero; an undefined number cannot be ordered. -/
def isNegative? : Decimal → Option Bool
  | .finite negative coefficient _ => some (negative && coefficient != 0)
  | .infinite negative => some negative
  | .nan _ _ _ => none

/-- The integer part of a finite number. -/
def truncate? : Decimal → Option Int
  | .finite negative coefficient exponent =>
    let fraction := scale 10 exponent (coefficient, 1)
    let whole : Int := (fraction.1 / fraction.2 : Nat)
    some (if negative then -whole else whole)
  | _ => none

/-- The nearest binary number; a signalling undefined number has none. -/
def toBinary? : Decimal → Option Binary
  | .finite negative coefficient exponent => some (.ofDecimal negative coefficient exponent)
  | .infinite negative => some (.infinite negative)
  | .nan _ signalling _ => if signalling then none else some .nan

/-- The text of `coefficient * 10 ^ exponent`. -/
def writeFinite (coefficient : Nat) (exponent : Int) : List Char :=
  let digits := Nat.toDigits 10 coefficient
  let left := (digits.length : Int) + exponent
  let point := if exponent ≤ 0 ∧ -6 < left then left else 1
  let body :=
    if point ≤ 0 then '0' :: '.' :: List.replicate point.natAbs '0' ++ digits
    else if digits.length ≤ point.toNat then
      digits ++ List.replicate (point.toNat - digits.length) '0'
    else digits.take point.toNat ++ '.' :: digits.drop point.toNat
  if left = point then body
  else
    let power := left - point
    body ++ 'E' :: (if power < 0 then '-' else '+') :: Nat.toDigits 10 power.natAbs

/-- The text of a number. -/
def text : Decimal → String
  | .finite negative coefficient exponent =>
    let body := writeFinite coefficient exponent
    String.ofList (if negative then '-' :: body else body)
  | .infinite negative => if negative then "-Infinity" else "Infinity"
  | .nan negative signalling payload =>
    let sign := if negative then "-" else ""
    let kind := if signalling then "sNaN" else "NaN"
    let digits := if payload = 0 then "" else toString payload
    sign ++ kind ++ digits

end Decimal

end SqlBuilder.Number
