import WorkflowGuard.Instant
import WorkflowGuard.Text.Blank
import WorkflowGuard.Text.Digits

/-!
# Instants in text

An instant is written as date and time of day in universal time, with as few of 0, 3, 6 or 9
decimal places as are exact. It is read from a date, a `T` or a space, a time of day with up to
nine decimal places that count, and an offset: `Z`, `UTC`, or a sign with hours and minutes.
White space may stand between the parts, and numbers may lack their leading zeros.
-/

namespace WorkflowGuard.Instant

/-- The parts of a point in time as it is written. -/
structure Fields where
  year : Int
  month : Nat
  day : Nat
  hour : Nat
  minute : Nat
  second : Nat
  nanos : Nat
  /-- Seconds by which the written time runs ahead of universal time. -/
  offset : Int
  deriving DecidableEq, Repr

/-- At most `width` digits, at least one. -/
def readDigits? (width : Nat) (text : List Char) : Option (Nat × List Char) :=
  let digits := (text.take width).takeWhile Char.isDigit
  if digits.isEmpty then none else some (Text.digitsValue digits, text.drop digits.length)

/-- A number of at most `width` digits after white space. -/
def readNumber? (width : Nat) (text : List Char) : Option (Nat × List Char) :=
  readDigits? width (Text.trimStart text)

/-- A year after white space: four digits at most, or any number of them after a sign. -/
def readYear? (text : List Char) : Option (Int × List Char) :=
  match Text.trimStart text with
  | '-' :: rest => (readDigits? rest.length rest).map fun (year, rest) => (-(year : Int), rest)
  | '+' :: rest => (readDigits? rest.length rest).map fun (year, rest) => ((year : Int), rest)
  | rest => (readDigits? 4 rest).map fun (year, rest) => ((year : Int), rest)

/-- A separator after white space. -/
def readMark? (mark : Char) (text : List Char) : Option (List Char) :=
  match Text.trimStart text with
  | first :: rest => if first = mark then some rest else none
  | [] => none

/-- The decimal places of the second: nine count, more are skipped. -/
def readNanos? : List Char → Option (Nat × List Char)
  | '.' :: rest => do
    let (_, afterNine) ← readDigits? 9 rest
    let digits := (rest.take 9).takeWhile Char.isDigit
    return (Text.digitsValue digits * Nat.pow 10 (9 - digits.length),
      afterNine.dropWhile Char.isDigit)
  | rest => some (0, rest)

/-- Hours and minutes of an offset, in seconds. Colons and white space may stand between. -/
def readOffsetBody? : List Char → Option (Int × List Char)
  | h₁ :: h₂ :: rest =>
    match rest.dropWhile fun character => character == ':' || Text.isSpace character with
    | m₁ :: m₂ :: rest =>
      if [h₁, h₂, m₁, m₂].all Char.isDigit && m₁.toNat < '6'.toNat then
        some ((Text.digitsValue [h₁, h₂] : Int) * 3600 +
          (Text.digitsValue [m₁, m₂] : Int) * 60, rest)
      else none
    | _ => none
  | _ => none

/-- The offset at the end. A minus sign may be the hyphen or U+2212. -/
def readOffset? (text : List Char) : Option (Int × List Char) :=
  match text with
  | [] => none
  | sign :: rest =>
    if (text.take 3).map Char.toLower == ['u', 't', 'c'] then some (0, text.drop 3)
    else if sign = 'Z' ∨ sign = 'z' then some (0, rest)
    else if sign = '+' then readOffsetBody? rest
    else if sign = '-' ∨ sign = Char.ofNat 0x2212 then
      (readOffsetBody? rest).map fun (seconds, rest) => (-seconds, rest)
    else none

/-- The letter or space between date and time of day. -/
def readSeparator? : List Char → Option (List Char)
  | first :: rest => if first = 'T' ∨ first = 't' ∨ first = ' ' then some rest else none
  | [] => none

def readFields? (text : List Char) : Option Fields := do
  let (year, text) ← readYear? text
  let (month, text) ← readNumber? 2 (← readMark? '-' text)
  let (day, text) ← readNumber? 2 (← readMark? '-' text)
  let (hour, text) ← readNumber? 2 (← readSeparator? text)
  let (minute, text) ← readNumber? 2 (← readMark? ':' text)
  let (second, text) ← readNumber? 2 (← readMark? ':' text)
  let (nanos, text) ← readNanos? text
  let (offset, text) ← readOffset? (Text.trimStart text)
  guard (Text.trimStart text).isEmpty
  return { year, month, day, hour, minute, second, nanos, offset }

/-- The instant with the given parts, if there is one. The second 60 is a leap second. -/
def Fields.toInstant? (fields : Fields) : Option Instant :=
  let date : Calendar.Date := ⟨fields.year, fields.month, fields.day⟩
  let leap := fields.second = 60
  let second : Nat := if leap then 59 else fields.second
  let seconds : Int := date.toDays * secondsPerDay + fields.hour * 3600 + fields.minute * 60 +
    second - fields.offset
  let nanos := if leap then fields.nanos + nanosPerSecond else fields.nanos
  if date.isValid && fields.hour < 24 && fields.minute < 60 && fields.second ≤ 60 &&
      fields.offset.natAbs < 86400 &&
      Calendar.isSupportedYear (Calendar.Date.ofDays (seconds / secondsPerDay)).year then
    some ⟨seconds, nanos⟩
  else none

def read? (text : String) : Option Instant :=
  (readFields? text.toList).bind Fields.toInstant?

/-- A number with zeros in front up to the given width. -/
def padded (width number : Nat) : List Char :=
  let digits := Nat.toDigits 10 number
  List.replicate (width - digits.length) '0' ++ digits

/-- The decimal places, as few of 0, 3, 6 or 9 as are exact. -/
def fractionText (nanos : Nat) : List Char :=
  if nanos = 0 then []
  else if nanos % 1000000 = 0 then '.' :: padded 3 (nanos / 1000000)
  else if nanos % 1000 = 0 then '.' :: padded 6 (nanos / 1000)
  else '.' :: padded 9 nanos

/-- Four digits; a year outside 0 to 9999 has a sign. -/
def yearText (year : Int) : List Char :=
  if 0 ≤ year && year ≤ 9999 then padded 4 year.natAbs
  else (if year < 0 then '-' else '+') :: padded 4 year.natAbs

def write (instant : Instant) : String :=
  let date := Calendar.Date.ofDays (instant.seconds / secondsPerDay)
  let time := instant.secondOfDay.toNat
  let second := if instant.inLeapSecond then time % 60 + 1 else time % 60
  String.ofList (yearText date.year ++ '-' :: padded 2 date.month ++ '-' :: padded 2 date.day ++
    'T' :: padded 2 (time / 3600) ++ ':' :: padded 2 (time / 60 % 60) ++ ':' ::
    padded 2 second ++ fractionText (instant.nanos % nanosPerSecond) ++ ['Z'])

end WorkflowGuard.Instant
