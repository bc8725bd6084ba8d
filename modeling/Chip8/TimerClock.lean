/-!
# Whole periods of a clock

Instants and durations are natural numbers of nanoseconds. A timer clock counts
the whole periods since its reference instant and moves the reference on by
exactly the periods it reports, so that the remainder of a period is carried over
to the next question. One answer is at most 2³² − 1; what exceeds it is left for
later answers.
-/

namespace Chip8

/-- An instant, in nanoseconds. -/
abbrev Instant := Nat

/-- A period and the instant up to which periods have been counted. -/
structure TimerClock where
  period : Nat
  reference : Instant
  period_pos : 0 < period
  deriving DecidableEq, Repr

namespace TimerClock

/-- The most periods a single answer reports. -/
def maxPeriods : Nat := 0xFFFFFFFF

/-- The nanoseconds between two beats of a rate in beats per second. No rate is
slower than one beat per second, and no period is shorter than a nanosecond. -/
def periodOf (hz : UInt32) : Nat :=
  max (1000000000 / max hz.toNat 1) 1

/-- A clock of the given rate, started at an instant. -/
def start (hz : UInt32) (now : Instant) : TimerClock :=
  { period := periodOf hz
    reference := now
    period_pos := Nat.lt_of_lt_of_le Nat.one_pos (Nat.le_max_right _ _) }

/-- The whole periods passed since the reference, and the clock moved on by them. -/
def elapsed (clock : TimerClock) (now : Instant) : Nat × TimerClock :=
  let periods := min ((now - clock.reference) / clock.period) maxPeriods
  (periods, { clock with reference := clock.reference + clock.period * periods })

/-- Forget the time passed since the reference. -/
def resync (clock : TimerClock) (now : Instant) : TimerClock :=
  { clock with reference := now }

end TimerClock

end Chip8
