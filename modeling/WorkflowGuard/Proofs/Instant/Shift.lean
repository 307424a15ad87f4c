import Mathlib
import WorkflowGuard.Instant

/-!
# Shifting instants in time

Outside leap seconds, instants count nanoseconds on one line. Moving two of them by the same
amount keeps their difference, which is the main statement of this file.

An instant in a leap second is not on that line. A small shift leaves it in the leap second, and
a larger one moves it to the line, as far from the leap second as the shift says. Differences do
not follow: they count a leap second by the time of day alone, so no such law holds for it.
-/

namespace WorkflowGuard.Instant

/-- The instant at a distance in nanoseconds from the start of a second, not counting leap
seconds. -/
def ofOffset (seconds offset : Int) : Instant where
  seconds := seconds + offset / nanosPerSecond
  nanos := (offset % nanosPerSecond).toNat

/-- The instant so many nanoseconds later. -/
def shift (instant : Instant) (nanos : Int) : Instant :=
  let offset := instant.nanos + nanos
  if instant.inLeapSecond && nanosPerSecond ≤ offset then
    if offset < 2 * nanosPerSecond then ⟨instant.seconds, offset.toNat⟩
    else ofOffset instant.seconds (offset - nanosPerSecond)
  else ofOffset instant.seconds offset

/-- The nanoseconds from the epoch, not counting leap seconds. -/
def position (instant : Instant) : Int :=
  instant.seconds * nanosPerSecond + instant.nanos

theorem inLeapSecond_ofOffset (seconds offset : Int) :
    (ofOffset seconds offset).inLeapSecond = false := by
  apply decide_eq_false
  simp only [ofOffset, nanosPerSecond]
  omega

theorem position_ofOffset (seconds offset : Int) :
    (ofOffset seconds offset).position = seconds * nanosPerSecond + offset := by
  simp only [position, ofOffset, nanosPerSecond]
  omega

variable {instant later earlier : Instant}

/-- Shifting an ordinary instant moves its offset. -/
theorem shift_eq_ofOffset (ordinary : instant.inLeapSecond = false) (nanos : Int) :
    instant.shift nanos = ofOffset instant.seconds (instant.nanos + nanos) := by
  simp [shift, ordinary]

/-- Between ordinary instants, time is the distance on the line. -/
theorem nanosSince_eq_position (laterOrdinary : later.inLeapSecond = false)
    (earlierOrdinary : earlier.inLeapSecond = false) :
    later.nanosSince earlier = later.position - earlier.position := by
  simp only [nanosSince, leapCorrection, laterOrdinary, earlierOrdinary, Bool.and_false,
    Bool.false_eq_true, if_false, position]
  ring

/-- A common shift of ordinary instants leaves the time between them. -/
theorem millisSince_shift (laterOrdinary : later.inLeapSecond = false)
    (earlierOrdinary : earlier.inLeapSecond = false) (nanos : Int) :
    (later.shift nanos).millisSince (earlier.shift nanos) = later.millisSince earlier := by
  have sameDistance :
      (later.shift nanos).nanosSince (earlier.shift nanos) = later.nanosSince earlier := by
    rw [shift_eq_ofOffset laterOrdinary, shift_eq_ofOffset earlierOrdinary,
      nanosSince_eq_position (inLeapSecond_ofOffset _ _) (inLeapSecond_ofOffset _ _),
      nanosSince_eq_position laterOrdinary earlierOrdinary, position_ofOffset,
      position_ofOffset, position, position]
    ring
  simp only [millisSince, sameDistance]

end WorkflowGuard.Instant
