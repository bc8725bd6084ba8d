import Mathlib.Data.UInt
import Chip8.TimerClock

/-!
# Durations in seconds and nanoseconds

A duration is kept as whole seconds in 64 bits and the nanoseconds of a second that has begun.
Products and quotients are worked out part by part: nanoseconds that fill a second are carried
over to the seconds, and in a quotient what is left of the seconds goes on to the nanoseconds.
A product whose seconds do not fit has no outcome, nor has a quotient by zero.

No clock runs on these durations. They say where a period, or what several periods come to,
could be too long, so that it can be shown that it never is.
-/

namespace Chip8

/-- Whole seconds and the nanoseconds of a second that has begun. -/
structure Duration where
  seconds : UInt64
  nanoseconds : UInt32
  nanoseconds_lt : nanoseconds.toNat < 1000000000
  deriving DecidableEq, Repr

namespace Duration

variable {duration other : Duration} {seconds nanoseconds length : Nat} {count : UInt32}

/-- The length of a duration in nanoseconds. -/
def toNat (duration : Duration) : Nat :=
  duration.seconds.toNat * 1000000000 + duration.nanoseconds.toNat

/-- The nanoseconds past the last full second are not cut off by 32 bits. -/
theorem toNat_remainder (length : Nat) :
    (UInt32.ofNat (length % 1000000000)).toNat = length % 1000000000 :=
  UInt32.toNat_ofNat_of_lt' (Nat.lt_trans (Nat.mod_lt length (by decide)) (by decide))

/-- The nanoseconds past the last full second are fewer than a second. -/
theorem remainder_lt (length : Nat) : (UInt32.ofNat (length % 1000000000)).toNat < 1000000000 := by
  rw [toNat_remainder]
  exact Nat.mod_lt length (by decide)

/-- The duration of some seconds and nanoseconds, of which full seconds are carried over, if
its seconds fit. -/
def carried? (seconds nanoseconds : Nat) : Option Duration :=
  let whole := seconds + nanoseconds / 1000000000
  if whole < UInt64.size then
    some ⟨UInt64.ofNat whole, UInt32.ofNat (nanoseconds % 1000000000), remainder_lt nanoseconds⟩
  else none

/-- A duration taken a number of times. -/
def times? (duration : Duration) (count : UInt32) : Option Duration :=
  carried? (duration.seconds.toNat * count.toNat) (duration.nanoseconds.toNat * count.toNat)

/-- A duration divided by a number. -/
def over? (duration : Duration) (count : UInt32) : Option Duration :=
  if count = 0 then none
  else
    let passed := duration.seconds.toNat % count.toNat * 1000000000 +
      duration.nanoseconds.toNat % count.toNat
    carried? (duration.seconds.toNat / count.toNat)
      (duration.nanoseconds.toNat / count.toNat + passed / count.toNat)

/-- The longer one of two durations. -/
def longer (first second : Duration) : Duration :=
  if first.toNat ≤ second.toNat then second else first

/-- One second. -/
def second : Duration := ⟨1, 0, remainder_lt 0⟩

/-- One nanosecond. -/
def nanosecond : Duration := ⟨0, 1, remainder_lt 1⟩

/-- The time between two beats of a rate: a second divided by the rate, of at least one beat,
and at least a nanosecond. -/
def ofRate? (hz : UInt32) : Option Duration :=
  (second.over? (max hz 1)).map (longer nanosecond)

/-- A duration is what its length says. -/
theorem ext_toNat (same : duration.toNat = other.toNat) : duration = other := by
  obtain ⟨seconds, nanoseconds, short⟩ := duration
  obtain ⟨otherSeconds, otherNanoseconds, otherShort⟩ := other
  simp only [toNat] at same
  obtain rfl : seconds = otherSeconds := UInt64.toNat_inj.mp (by omega)
  obtain rfl : nanoseconds = otherNanoseconds := UInt32.toNat_inj.mp (by omega)
  rfl

/-- A duration is below 2⁶⁴ seconds. -/
theorem toNat_lt (duration : Duration) : duration.toNat < UInt64.size * 1000000000 := by
  have seconds : duration.seconds.toNat < UInt64.size := duration.seconds.toNat_lt
  have nanoseconds := duration.nanoseconds_lt
  rw [toNat]
  omega

/-- Where the seconds fit, the parts come to the whole. -/
theorem exists_carried (fits : seconds + nanoseconds / 1000000000 < UInt64.size) :
    ∃ result, carried? seconds nanoseconds = some result ∧
      result.toNat = seconds * 1000000000 + nanoseconds := by
  refine ⟨_, if_pos fits, ?_⟩
  rw [toNat, UInt64.toNat_ofNat_of_lt' fits, toNat_remainder]
  omega

/-- There is a duration of every length whose seconds fit. -/
theorem exists_toNat (fits : length < UInt64.size * 1000000000) :
    ∃ duration : Duration, duration.toNat = length := by
  have inside : 0 + length / 1000000000 < UInt64.size := by omega
  obtain ⟨duration, -, same⟩ := exists_carried inside
  exact ⟨duration, by omega⟩

/-- What is carried over is not lost, and it is refused only where no duration is as long. -/
theorem carried?_eq_some :
    carried? seconds nanoseconds = some duration ↔
      duration.toNat = seconds * 1000000000 + nanoseconds := by
  constructor
  · intro carried
    by_cases fits : seconds + nanoseconds / 1000000000 < UInt64.size
    · obtain ⟨result, same, length⟩ := exists_carried fits
      obtain rfl : result = duration := Option.some.inj (same.symm.trans carried)
      exact length
    · rw [carried?, if_neg fits] at carried
      cases carried
  · intro length
    have short := duration.toNat_lt
    have fits : seconds + nanoseconds / 1000000000 < UInt64.size := by omega
    obtain ⟨result, carried, same⟩ := exists_carried fits
    rw [carried, ext_toNat (same.trans length.symm)]

/-- The product is the duration of the product of the lengths, if there is one. -/
theorem times?_eq_some :
    duration.times? count = some other ↔ other.toNat = duration.toNat * count.toNat := by
  have parts : duration.toNat * count.toNat =
      duration.seconds.toNat * count.toNat * 1000000000 +
        duration.nanoseconds.toNat * count.toNat := by
    rw [toNat, Nat.add_mul, Nat.mul_right_comm]
  rw [times?, carried?_eq_some, parts]

/-- However often a duration of at most a second is taken, it does not come to too much. -/
theorem exists_times (short : duration.toNat ≤ 1000000000) (count : UInt32) :
    ∃ product, duration.times? count = some product ∧
      product.toNat = duration.toNat * count.toNat := by
  have few : count.toNat < UInt64.size := Nat.lt_trans count.toNat_lt (by decide)
  have fits : duration.toNat * count.toNat < UInt64.size * 1000000000 :=
    calc duration.toNat * count.toNat
      _ ≤ 1000000000 * count.toNat := Nat.mul_le_mul_right _ short
      _ < UInt64.size * 1000000000 := by omega
  obtain ⟨product, length⟩ := exists_toNat fits
  exact ⟨product, times?_eq_some.mpr length, length⟩

/-- A number in two parts is divided part by part if what is left of the first part is passed on
to the second. -/
theorem div_parts {divisor : Nat} (positive : 0 < divisor) (first second unit : Nat) :
    (first * unit + second) / divisor = first / divisor * unit +
      (second / divisor + (first % divisor * unit + second % divisor) / divisor) := by
  have parts : first * unit + second = divisor * (first / divisor * unit + second / divisor) +
      (first % divisor * unit + second % divisor) := by
    calc first * unit + second
      _ = (divisor * (first / divisor) + first % divisor) * unit +
          (divisor * (second / divisor) + second % divisor) := by
        rw [Nat.div_add_mod, Nat.div_add_mod]
      _ = divisor * (first / divisor * unit + second / divisor) +
          (first % divisor * unit + second % divisor) := by
        rw [Nat.add_mul, Nat.mul_add, Nat.mul_assoc, Nat.add_add_add_comm]
  rw [parts, Nat.mul_add_div positive, Nat.add_assoc]

/-- The quotient is the duration of the quotient of the lengths, and only zero has none. -/
theorem over?_eq_some :
    duration.over? count = some other ↔
      count ≠ 0 ∧ other.toNat = duration.toNat / count.toNat := by
  by_cases zero : count = 0
  · simp [over?, zero]
  · have positive : 0 < count.toNat :=
      Nat.pos_of_ne_zero fun vanishes => zero (UInt32.toNat_inj.mp vanishes)
    rw [over?, if_neg zero, carried?_eq_some, ← div_parts positive]
    exact (and_iff_right zero).symm

/-- The longer duration has the greater length. -/
theorem toNat_longer (first second : Duration) :
    (longer first second).toNat = max first.toNat second.toNat := by
  rw [longer, Nat.max_def]
  split <;> rfl

/-- Every rate has a period, of as many nanoseconds as a clock of the rate counts by. -/
theorem exists_ofRate (hz : UInt32) :
    ∃ period, ofRate? hz = some period ∧ period.toNat = TimerClock.periodOf hz := by
  have atLeastOne : (max hz 1).toNat = max hz.toNat 1 := UInt32.toNat_max hz 1
  have positive : max hz 1 ≠ 0 := by
    intro zero
    rw [zero] at atLeastOne
    change 0 = max hz.toNat 1 at atLeastOne
    omega
  have short : second.toNat / (max hz 1).toNat < UInt64.size * 1000000000 :=
    Nat.lt_of_le_of_lt (Nat.div_le_self _ _) second.toNat_lt
  obtain ⟨quotient, length⟩ := exists_toNat short
  refine ⟨longer nanosecond quotient, ?_, ?_⟩
  · rw [ofRate?, over?_eq_some.mpr ⟨positive, length⟩]
    rfl
  · rw [toNat_longer, length, atLeastOne, TimerClock.periodOf, Nat.max_comm]
    rfl

example : (ofRate? 0).map toNat = some 1000000000 ∧ (ofRate? 0xFFFFFFFF).map toNat = some 1 := by
  decide

end Duration

end Chip8
