import WorkflowGuard.Decimal.Nearest
import WorkflowGuard.Text.Digits

/-!
# Reading decimal numbers

A decimal number in a text is an optional sign, digits with at most one point among, before or
after them, and an optional exponent. It is read as the nearest double. The words for infinity
and not-a-number are no decimal numbers.
-/

namespace WorkflowGuard.Decimal

/-- The sign in front of a number, if any, and what follows it. -/
def splitSign : List Char → Bool × List Char
  | '-' :: rest => (true, rest)
  | '+' :: rest => (false, rest)
  | rest => (false, rest)

/-- The exponent that the characters after the digits spell; nothing at all spells zero. -/
def readExponent? : List Char → Option Int
  | [] => some 0
  | marker :: rest =>
    let (negative, digits) := splitSign rest
    if (marker == 'e' || marker == 'E') && !digits.isEmpty && digits.all Char.isDigit then
      some (if negative then -(Text.digitsValue digits : Int) else Text.digitsValue digits)
    else none

/-- The double nearest to `digits * 10 ^ exponent`. Exponents far beyond the range of doubles
are settled before any power is formed. -/
def scale (digits : Nat) (exponent : Int) : Float :=
  if digits = 0 then 0
  else if 400 < exponent then nearest (Nat.pow 2 1024) 1
  else if exponent + (digits.log2 + 1) < -400 then 0
  else nearest (digits * Nat.pow 10 exponent.toNat) (Nat.pow 10 (-exponent).toNat)

/-- The decimal number that the whole text spells. It is infinite if it exceeds all doubles. -/
def read? (text : List Char) : Option Float := do
  let (negative, unsigned) := splitSign text
  let whole := unsigned.takeWhile Char.isDigit
  let afterWhole := unsigned.dropWhile Char.isDigit
  let (fraction, afterFraction) := match afterWhole with
    | '.' :: rest => (rest.takeWhile Char.isDigit, rest.dropWhile Char.isDigit)
    | rest => ([], rest)
  guard !(whole.isEmpty && fraction.isEmpty)
  let exponent ← readExponent? afterFraction
  let magnitude := scale (Text.digitsValue (whole ++ fraction)) (exponent - fraction.length)
  return if negative then -magnitude else magnitude

end WorkflowGuard.Decimal
