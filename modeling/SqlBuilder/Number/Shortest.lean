import SqlBuilder.Number.Binary

/-!
# The shortest decimal text of a binary number

A finite number is written with the fewest digits that read back as the same number; of two such
texts with equally many digits the nearer one is taken, and the even one of two equally near. The
digits are laid out positionally while the decimal point falls at most sixteen digits from the
left and at most three zeros before the first digit, and in scientific form otherwise.
-/

set_option autoImplicit false

namespace SqlBuilder.Number

namespace Binary

/-- The set of reals that read back as a given number, scaled to integers: the numbers between
`low` and `high`, in units of `2 ^ unit`, ends included when `closed`. -/
structure Rounding where
  /-- The number itself. -/
  value : Nat
  /-- The lower end. -/
  low : Nat
  /-- The upper end. -/
  high : Nat
  /-- Whether the ends read back as the number. -/
  closed : Bool
  /-- The exponent of two of the unit. -/
  unit : Int

/-- The reals that read back as `significand * 2 ^ exponent`. -/
def rounding (significand : Nat) (exponent : Int) : Rounding :=
  let narrow := significand == Nat.pow 2 52 && leastExponent < exponent
  { value := 4 * significand
    low := if narrow then 4 * significand - 1 else 4 * significand - 2
    high := 4 * significand + 2
    closed := significand % 2 == 0
    unit := exponent - 2 }

/-- Whether `digits * 10 ^ grid` reads back as the number. -/
def Rounding.holds (r : Rounding) (digits : Nat) (grid : Int) : Bool :=
  let point := scale 10 grid (digits, 1)
  let unit := scale 2 r.unit (1, 1)
  let here := point.1 * unit.2
  let low := r.low * unit.1 * point.2
  let high := r.high * unit.1 * point.2
  if r.closed then low ≤ here && here ≤ high else low < here && here < high

/-- The better neighbour of the number on the decimal grid `10 ^ grid`, if one reads back. -/
def Rounding.onGrid? (r : Rounding) (grid : Int) : Option Nat :=
  let scaled := scale 10 (-grid) (scale 2 r.unit (r.value, 1))
  let below := scaled.1 / scaled.2
  match r.holds below grid, r.holds (below + 1) grid with
  | true, true => some (roundDiv scaled.1 scaled.2)
  | true, false => some below
  | false, true => some (below + 1)
  | false, false => none

/-- The fewest digits that read back, with the power of ten that they count. -/
def shortest (significand : Nat) (exponent : Int) : Nat × Int :=
  let r := rounding significand exponent
  let fraction := scale 2 exponent (significand, 1)
  let magnitude := floorLog10 fraction.1 fraction.2
  let attempt (count : Nat) : Option (Nat × Int) :=
    let grid := magnitude - count
    (r.onGrid? grid).map fun digits => (digits, grid)
  let found := ((List.range 17).findSome? attempt).getD (significand, 0)
  let (digits, dropped) := dropZeros 20 found.1
  (digits, found.2 + dropped)

/-- How the decimal text of a number is laid out. -/
structure Layout where
  /-- Positional while the point stands at most this many digits from the left. -/
  greatestPoint : Int
  /-- Positional while the point stands at least this far, counted from the first digit. -/
  leastPoint : Int
  /-- The fewest digits of an exponent. -/
  exponentWidth : Nat

/-- Positional from `0.0001` up to sixteen digits before the point, two exponent digits. -/
def layout : Layout := ⟨16, -3, 2⟩

/-- Digits with the decimal point after the first `point` of them. -/
def placePoint (digits : List Char) (point : Int) : List Char :=
  if point ≤ 0 then '0' :: '.' :: List.replicate point.natAbs '0' ++ digits
  else
    let whole := point.toNat
    if digits.length ≤ whole then
      digits ++ List.replicate (whole - digits.length) '0' ++ ['.', '0']
    else digits.take whole ++ '.' :: digits.drop whole

/-- The exponent of scientific notation: a sign and at least `width` digits. -/
def exponentText (width : Nat) (exponent : Int) : List Char :=
  let digits := Nat.toDigits 10 exponent.natAbs
  let sign := if exponent < 0 then '-' else '+'
  sign :: List.replicate (width - digits.length) '0' ++ digits

/-- The text of `digits * 10 ^ exponent`. -/
def Layout.write (layout : Layout) (digits : Nat) (exponent : Int) : List Char :=
  let shown := Nat.toDigits 10 digits
  let point := (shown.length : Int) + exponent
  if layout.leastPoint ≤ point ∧ point ≤ layout.greatestPoint then placePoint shown point
  else
    let head := shown.take 1
    let tail := shown.drop 1
    let mantissa := if tail.isEmpty then head else head ++ '.' :: tail
    mantissa ++ 'e' :: exponentText layout.exponentWidth (point - 1)

/-- The shortest text of a number. -/
def text : Binary → String
  | .nan => "nan"
  | .infinite negative => if negative then "-inf" else "inf"
  | .finite negative significand exponent =>
    let body :=
      if significand = 0 then ['0', '.', '0']
      else
        let (digits, power) := shortest significand exponent
        layout.write digits power
    String.ofList (if negative then '-' :: body else body)

end Binary

end SqlBuilder.Number
