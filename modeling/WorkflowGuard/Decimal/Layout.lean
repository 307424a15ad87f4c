import WorkflowGuard.Decimal.Shortest

/-!
# Layouts of numbers in text

The digits of a double are fixed by `Decimal.shortest`, up to the choice between two equally
near candidates; a `Layout` makes this choice and says how the digits are set. Each output of
the library has one layout, stated where that output is written.
-/

namespace WorkflowGuard.Decimal

/-- How the digits of a double are set. -/
structure Layout where
  /-- The least exponent of the first digit that is written without an exponent part. -/
  least : Option Int
  /-- The greatest exponent of the first digit that is written without an exponent part. -/
  greatest : Option Int
  /-- A whole number written without an exponent part ends in `.0`. -/
  wholeHasPoint : Bool
  /-- A positive exponent part carries a plus sign. -/
  exponentHasPlus : Bool
  /-- Which digits are taken if two candidates are equally near. -/
  tie : Tie
  deriving DecidableEq, Repr

/-- The digits are written without an exponent part. -/
def Layout.isPositional (layout : Layout) (exponent : Int) : Bool :=
  layout.least.all (· ≤ exponent) && layout.greatest.all (exponent ≤ ·)

/-- Digits with the point in its place and no exponent part. -/
def Layout.positional (layout : Layout) (digits : Digits) : List Char :=
  if digits.exponent < 0 then
    ['0', '.'] ++ List.replicate (-digits.exponent - 1).toNat '0' ++ digits.digits
  else
    let whole := digits.exponent.toNat + 1
    let front := digits.digits.take whole
    let zeros := List.replicate (whole - digits.digits.length) '0'
    match digits.digits.drop whole with
    | [] => front ++ zeros ++ (if layout.wholeHasPoint then ['.', '0'] else [])
    | back => front ++ '.' :: back

/-- One digit, the point, the other digits, and the exponent part. -/
def Layout.scientific (layout : Layout) (digits : Digits) : List Char :=
  let front := digits.digits.take 1
  let back := digits.digits.drop 1
  let sign := if digits.exponent < 0 then ['-'] else if layout.exponentHasPlus then ['+'] else []
  front ++ (if back.isEmpty then [] else '.' :: back) ++ 'e' :: sign ++
    Nat.toDigits 10 digits.exponent.natAbs

def Layout.finite (layout : Layout) (negative : Bool) (significand : Nat) (exponent : Int) :
    List Char :=
  let digits := shortest layout.tie significand exponent
  (if negative then ['-'] else []) ++
    if layout.isPositional digits.exponent then layout.positional digits
    else layout.scientific digits

/-- The text of any double; the words for the values that are no numbers are fixed. -/
def Layout.write (layout : Layout) (number : Float) : String :=
  match decode number with
  | .nan => "NaN"
  | .infinite negative => if negative then "-inf" else "inf"
  | .finite negative significand exponent =>
    String.ofList (layout.finite negative significand exponent)

/-- All digits are written out, and a whole number has no point. -/
def plain : Layout where
  least := none
  greatest := none
  wholeHasPoint := false
  exponentHasPlus := false
  tie := .up

end WorkflowGuard.Decimal
