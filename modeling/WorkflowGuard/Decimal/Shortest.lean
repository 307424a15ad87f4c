/-!
# Shortest decimal digits of a double

A double stands for every real number that rounds to it. Its text uses the fewest significant
digits that lie in that interval; of two candidates with equally many digits the one nearer to
the double wins, and a `Tie` says which one wins if both are equally near. The search walks the
decimal grids from coarse to fine and tests the two grid points next to the double in exact
arithmetic.
-/

namespace WorkflowGuard.Decimal

/-- What the bits of a double say. -/
inductive Decoded where
  | nan
  | infinite (negative : Bool)
  /-- The number `significand * 2 ^ exponent` and its sign. -/
  | finite (negative : Bool) (significand : Nat) (exponent : Int)
  deriving DecidableEq, Repr

/-- The sign, exponent and significand held by a double. -/
def decode (number : Float) : Decoded :=
  let bits := number.toBits.toNat
  let negative := decide (Nat.pow 2 63 ≤ bits)
  let field : Nat := bits / Nat.pow 2 52 % Nat.pow 2 11
  let fraction : Nat := bits % Nat.pow 2 52
  if field = 2047 then
    if fraction = 0 then .infinite negative else .nan
  else if field = 0 then
    .finite negative fraction (-1074)
  else
    .finite negative (Nat.pow 2 52 + fraction) ((field : Int) - 1075)

/-- Significant decimal digits and the power of ten of the first one. -/
structure Digits where
  digits : List Char
  exponent : Int
  deriving DecidableEq, Repr

/-- The greatest `e` with `10 ^ e ≤ numerator / denominator`, for positive arguments. -/
def decimalExponent (numerator denominator : Nat) : Int :=
  if denominator ≤ numerator then
    ((Nat.toDigits 10 (numerator / denominator)).length : Int) - 1
  else
    -((Nat.toDigits 10 ((denominator + numerator - 1) / numerator - 1)).length : Int)

/-- The reals that round to one double: the middle and the two ends over one denominator, and
whether the ends themselves round to it. -/
structure RoundingInterval where
  low : Nat
  middle : Nat
  high : Nat
  denominator : Nat
  closed : Bool

/-- The interval of `significand * 2 ^ exponent`, in quarters of the last binary place: the
gap below a power of two is half as wide as the one above. -/
def RoundingInterval.ofBinary (significand : Nat) (exponent : Int) : RoundingInterval :=
  let scale := Nat.pow 2 (exponent - 2).toNat
  let below := if significand = Nat.pow 2 52 ∧ -1074 < exponent then 1 else 2
  { low := (4 * significand - below) * scale
    middle := 4 * significand * scale
    high := (4 * significand + 2) * scale
    denominator := Nat.pow 2 (2 - exponent).toNat
    closed := significand % 2 == 0 }

/-- The multiple `count * 10 ^ power` lies in the interval. -/
def RoundingInterval.contains (interval : RoundingInterval) (count : Nat) (power : Int) : Bool :=
  let point := count * Nat.pow 10 power.toNat * interval.denominator
  let low := interval.low * Nat.pow 10 (-power).toNat
  let high := interval.high * Nat.pow 10 (-power).toNat
  if interval.closed then low ≤ point && point ≤ high else low < point && point < high

/-- Which of two equally near multiples is taken. -/
inductive Tie where
  | toEven
  | up
  deriving DecidableEq, Repr

/-- The multiple below the middle wins over the one above it, by the remainder that separates
the middle from it. -/
def Tie.keepsFloor (tie : Tie) (floor remainder denominator : Nat) : Bool :=
  2 * remainder < denominator ||
    (tie == toEven && 2 * remainder == denominator && floor % 2 == 0)

/-- The best multiple of `10 ^ power` in the interval, if one of the two multiples next to the
middle lies in it. -/
def RoundingInterval.onGrid? (interval : RoundingInterval) (tie : Tie) (power : Int) :
    Option Nat :=
  let numerator := interval.middle * Nat.pow 10 (-power).toNat
  let denominator := interval.denominator * Nat.pow 10 power.toNat
  let floor := numerator / denominator
  let remainder := numerator % denominator
  match interval.contains floor power, interval.contains (floor + 1) power with
  | true, true =>
    if tie.keepsFloor floor remainder denominator then some floor else some (floor + 1)
  | true, false => some floor
  | false, true => some (floor + 1)
  | false, false => none

/-- The first hit on the grids `10 ^ power`, `10 ^ (power - 1)`, …, of which `count` are tried. -/
def RoundingInterval.coarsest? (interval : RoundingInterval) (tie : Tie) :
    Nat → Int → Option (Nat × Int)
  | 0, _ => none
  | count + 1, power =>
    match interval.onGrid? tie power with
    | some multiple => some (multiple, power)
    | none => interval.coarsest? tie count (power - 1)

/-- The digits of `multiple * 10 ^ power`, without zeros at the end. -/
def Digits.ofMultiple (multiple : Nat) (power : Int) : Digits :=
  let all := Nat.toDigits 10 multiple
  { digits := (all.reverse.dropWhile (· == '0')).reverse
    exponent := power + all.length - 1 }

/-- The shortest digits of `significand * 2 ^ exponent`; seventeen digits always suffice. -/
def shortest (tie : Tie) (significand : Nat) (exponent : Int) : Digits :=
  if significand = 0 then ⟨['0'], 0⟩
  else
    let interval := RoundingInterval.ofBinary significand exponent
    match interval.coarsest? tie 18 (decimalExponent interval.middle interval.denominator) with
    | some (multiple, power) => .ofMultiple multiple power
    | none => ⟨['0'], 0⟩

end WorkflowGuard.Decimal
