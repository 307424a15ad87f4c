import WorkflowGuard.Decimal.Layout
import WorkflowGuard.Decimal.Nearest

/-!
# Numbers of JSON texts

A `Numeral` is a number as it is spelled, a `Number` what it stands for. Whole numbers of 64
bits are kept exactly. Every other numeral is a double: its first digits are taken as one
natural number below `2 ^ 64`, the digits that do not fit only count as decimal places, and
that number is multiplied or divided by a power of ten in double arithmetic. The result can
differ from the nearest double in the last place. A numeral beyond the doubles has no value.
-/

namespace WorkflowGuard.Json

/-- A number of a JSON text. -/
inductive Number where
  /-- A whole number from `-2 ^ 63` to `2 ^ 64 - 1`. -/
  | whole (value : Int)
  /-- Any other number, and negative zero. -/
  | real (value : Float)
  deriving Repr

namespace Number

/-- Whole numbers are equal as integers, others as doubles; the two kinds never agree. -/
def same : Number → Number → Bool
  | whole left, whole right => left == right
  | real left, real right => left == right
  | _, _ => false

instance : BEq Number :=
  ⟨same⟩

def toFloat : Number → Float
  | whole value => Decimal.ofInt value
  | real value => value

/-- Doubles have at least one digit after the point, unless their first digit stands more than
five places behind the point or more than sixteen before it. -/
def layout : Decimal.Layout where
  least := some (-5)
  greatest := some 15
  wholeHasPoint := true
  exponentHasPlus := true
  tie := .toEven

def render : Number → String
  | whole value => toString value
  | real value => layout.write value

end Number

/-- The parts of a number as it is spelled, digits as numbers from 0 to 9. -/
structure Numeral where
  negative : Bool
  whole : List Nat
  fraction : List Nat
  /-- The sign and the digits of the exponent part. -/
  exponent : Option (Bool × List Nat)
  deriving DecidableEq, Repr

namespace Numeral

/-- Significands stay below this bound. -/
def significandBound : Nat := Nat.pow 2 64

/-- Appends digits to a significand as long as it stays below the bound; also returns how many
digits are left over. -/
def absorb (significand : Nat) : List Nat → Nat × Nat
  | [] => (significand, 0)
  | digit :: rest =>
    if significand * 10 + digit < significandBound then absorb (significand * 10 + digit) rest
    else (significand, rest.length + 1)

/-- A double divided by a power of ten, in steps of at most `10 ^ 308`. -/
def divideByPower (value : Float) (power : Nat) : Float :=
  if power ≤ 308 then value / Decimal.powerOfTen power
  else if value == 0 then value
  else divideByPower (value / Decimal.powerOfTen 308) (power - 308)
termination_by power
decreasing_by omega

/-- The significand times a power of ten, in double arithmetic, unless that overflows. -/
def scaled? (significand : Nat) (exponent : Int) : Option Float :=
  let value := Decimal.ofNat significand
  if exponent < 0 then some (divideByPower value exponent.natAbs)
  else if exponent ≤ 308 then
    let product := value * Decimal.powerOfTen exponent.toNat
    if product.isInf then none else some product
  else if significand = 0 then some value
  else none

def exponentValue : Option (Bool × List Nat) → Int
  | none => 0
  | some (negative, digits) =>
    let magnitude : Nat := digits.foldl (fun value digit => value * 10 + digit) 0
    if negative then -(magnitude : Int) else magnitude

/-- What the numeral stands for, if it does not exceed the doubles. -/
def value? (numeral : Numeral) : Option Number :=
  let (front, dropped) := absorb 0 numeral.whole
  if numeral.fraction.isEmpty && numeral.exponent.isNone && dropped == 0 then
    if !numeral.negative then some (.whole front)
    else if front == 0 || Nat.pow 2 63 < front then some (.real (-(Decimal.ofNat front)))
    else some (.whole (-(front : Int)))
  else
    let (significand, unread) := absorb front numeral.fraction
    let places : Int := (dropped : Int) - (numeral.fraction.length - unread : Nat)
    (scaled? significand (places + exponentValue numeral.exponent)).map fun value =>
      .real (if numeral.negative then -value else value)

end Numeral

end WorkflowGuard.Json
