import WorkflowGuard.Instant.Calendar

/-!
# Instants

An instant is a second of coordinated universal time and a number of nanoseconds in it. A leap
second is held as the second before it with more than `10 ^ 9` nanoseconds. Differences of
instants are whole milliseconds, rounded toward zero.
-/

namespace WorkflowGuard

/-- A point in time. -/
structure Instant where
  /-- Seconds since 1970-01-01T00:00:00Z. -/
  seconds : Int
  /-- Nanoseconds in the second; from `10 ^ 9` on they belong to a leap second. -/
  nanos : Nat
  deriving DecidableEq, Repr

namespace Instant

/-- 1970-01-01T00:00:00Z. -/
def epoch : Instant :=
  ⟨0, 0⟩

def secondsPerDay : Int := 86400

def nanosPerSecond : Nat := 1000000000

def secondOfDay (instant : Instant) : Int :=
  instant.seconds % secondsPerDay

/-- The instant lies in a leap second. -/
def inLeapSecond (instant : Instant) : Bool :=
  nanosPerSecond ≤ instant.nanos

/-- The second that a leap second adds to a difference: it lies between the two instants if the
later time of day comes after it, and was not reached if it comes before it. -/
def leapCorrection (later earlier : Instant) : Int :=
  if earlier.secondOfDay < later.secondOfDay && earlier.inLeapSecond then 1
  else if later.secondOfDay < earlier.secondOfDay && later.inLeapSecond then -1
  else 0

/-- The nanoseconds from the second instant to the first. -/
def nanosSince (later earlier : Instant) : Int :=
  (later.seconds - earlier.seconds + leapCorrection later earlier) * nanosPerSecond +
    ((later.nanos : Int) - earlier.nanos)

/-- The whole milliseconds from the second instant to the first, rounded toward zero. -/
def millisSince (later earlier : Instant) : Int :=
  (later.nanosSince earlier).tdiv 1000000

/-- Whole milliseconds since the epoch, rounded down. -/
def epochMillis (instant : Instant) : Int :=
  instant.seconds * 1000 + instant.nanos / 1000000

end Instant

end WorkflowGuard
