/-!
# Rounding fractions to doubles

`nearest` gives the double nearest to a fraction of natural numbers, ties to the even
significand, in exact arithmetic. Every decimal constant and every power of ten of the library
is made by it. Main statements: `roundDiv` is within half a unit of the quotient, and a tie
goes to the even neighbour.
-/

namespace WorkflowGuard.Decimal

/-- The quotient rounded to the nearest natural number; a tie goes to the even neighbour. -/
def roundDiv (numerator denominator : Nat) : Nat :=
  let quotient := numerator / denominator
  let remainder := numerator % denominator
  if 2 * remainder < denominator then quotient
  else if denominator < 2 * remainder then quotient + 1
  else if quotient % 2 = 0 then quotient
  else quotient + 1

/-- The rounded quotient is off by half at most. -/
theorem roundDiv_within_half {numerator denominator : Nat} (positive : 0 < denominator) :
    2 * numerator ≤ 2 * (roundDiv numerator denominator * denominator) + denominator ∧
      2 * (roundDiv numerator denominator * denominator) ≤ 2 * numerator + denominator := by
  have split := Nat.div_add_mod' numerator denominator
  have small := Nat.mod_lt numerator positive
  simp only [roundDiv]
  split
  · omega
  · split
    · rw [Nat.add_mul, Nat.one_mul]
      omega
    · split
      · omega
      · rw [Nat.add_mul, Nat.one_mul]
        omega

/-- Of two quotients that are as near, the even one is taken. -/
theorem roundDiv_even_of_tie {numerator denominator : Nat}
    (tie : 2 * (numerator % denominator) = denominator) :
    roundDiv numerator denominator % 2 = 0 := by
  simp only [roundDiv, tie, Nat.lt_irrefl, if_false]
  split <;> omega

/-- The bits of positive infinity, above those of every finite positive double. -/
def infinityBits : Nat := 0x7FF0000000000000

/-- The greatest `e` with `2 ^ e ≤ numerator / denominator`, for positive arguments. -/
def binaryExponent (numerator denominator : Nat) : Int :=
  let estimate : Int := (numerator.log2 : Int) - denominator.log2
  if denominator * Nat.pow 2 estimate.toNat ≤ numerator * Nat.pow 2 (-estimate).toNat then estimate
  else estimate - 1

/-- The bits of the double nearest to a fraction: the significand counts units of
`2 ^ unit`, and a significand that rounds up to `2 ^ 53` carries into the exponent field. -/
def nearestBits (numerator denominator : Nat) : Nat :=
  if numerator = 0 then 0
  else
    let unit := max (binaryExponent numerator denominator - 52) (-1074)
    let significand :=
      roundDiv (numerator * Nat.pow 2 (-unit).toNat) (denominator * Nat.pow 2 unit.toNat)
    min infinityBits (significand + (unit + 1074).toNat * Nat.pow 2 52)

/-- The double nearest to `numerator / denominator`; infinity beyond the greatest double. -/
def nearest (numerator denominator : Nat) : Float :=
  Float.ofBits (UInt64.ofNat (nearestBits numerator denominator))

def ofNat (number : Nat) : Float :=
  nearest number 1

def ofInt (number : Int) : Float :=
  if number < 0 then -(ofNat number.natAbs) else ofNat number.natAbs

/-- The double nearest to a power of ten. -/
def powerOfTen (exponent : Nat) : Float :=
  ofNat (Nat.pow 10 exponent)

end WorkflowGuard.Decimal
