/-!
# Rounding quotients

Division of natural numbers with the result rounded to the nearest integer, and the size of a
quotient as a power of ten.
-/

set_option autoImplicit false

namespace SqlBuilder.Number

/-- A quotient rounded to the nearest integer; a tie goes to the even neighbour. -/
def roundDiv (numerator denominator : Nat) : Nat :=
  let quotient := numerator / denominator
  let twice := 2 * (numerator % denominator)
  if twice < denominator then quotient
  else if denominator < twice then quotient + 1
  else quotient + quotient % 2

/-- The quotient as a fraction after multiplication by `base ^ exponent`. -/
def scale (base : Nat) (exponent : Int) (fraction : Nat × Nat) : Nat × Nat :=
  match exponent with
  | .ofNat up => (fraction.1 * base.pow up, fraction.2)
  | .negSucc down => (fraction.1, fraction.2 * base.pow (down + 1))

/-- The largest `t` with `10 ^ t` at most the positive quotient. -/
def floorLog10 (numerator denominator : Nat) : Int :=
  let estimate := (((numerator.log2 : Int) - denominator.log2) * 30103).fdiv 100000
  let reaches (t : Int) : Bool :=
    let power := scale 10 t (1, 1)
    power.1 * denominator ≤ numerator * power.2
  if reaches (estimate + 1) then estimate + 1
  else if reaches estimate then estimate
  else estimate - 1

/-- A number without its trailing zeros, and how many were dropped, for at most `fuel` of them. -/
def dropZeros : Nat → Nat → Nat × Nat
  | 0, value => (value, 0)
  | fuel + 1, value =>
    if value ≠ 0 ∧ value % 10 = 0 then
      let (rest, count) := dropZeros fuel (value / 10)
      (rest, count + 1)
    else (value, 0)

/-- The rounded quotient is within half a unit of the exact one. -/
theorem roundDiv_near (n : Nat) {d : Nat} (hd : 0 < d) :
    2 * n ≤ 2 * d * roundDiv n d + d ∧ 2 * d * roundDiv n d ≤ 2 * n + d := by
  have hsplit : d * (n / d) + n % d = n := Nat.div_add_mod n d
  have hlt : n % d < d := Nat.mod_lt n hd
  have hone : 2 * d * (n / d + 1) = 2 * (d * (n / d)) + 2 * d := by
    rw [Nat.mul_add, Nat.mul_assoc]; omega
  have hzero : 2 * d * (n / d) = 2 * (d * (n / d)) := Nat.mul_assoc 2 d _
  unfold roundDiv
  dsimp only
  split
  · omega
  · split
    · omega
    · rcases Nat.mod_two_eq_zero_or_one (n / d) with even | odd
      · simp only [even, Nat.add_zero]; omega
      · simp only [odd]; omega

end SqlBuilder.Number
