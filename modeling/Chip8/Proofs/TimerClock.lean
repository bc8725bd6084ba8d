import Chip8.TimerClock

/-!
# The reference instant of a clock

A question at an instant moves the reference on by the periods it reports and never past
that instant. Unless the answer is at its limit, less than a period then lies between the
two, so nothing is lost however the questions are spaced.
-/

namespace Chip8.TimerClock

variable {clock : TimerClock} {now : Instant}

/-- Less than a period has passed since the reference. -/
structure Current (clock : TimerClock) (now : Instant) : Prop where
  reached : clock.reference ≤ now
  recent : now < clock.reference + clock.period

/-- The periods passed since the reference fit into one answer. -/
def Uncapped (clock : TimerClock) (now : Instant) : Prop :=
  (now - clock.reference) / clock.period ≤ maxPeriods

instance (clock : TimerClock) (now : Instant) : Decidable (clock.Uncapped now) :=
  inferInstanceAs (Decidable (_ ≤ _))

/-- No question moves the reference past its own instant. -/
theorem elapsed_reached (reached : clock.reference ≤ now) :
    (clock.elapsed now).2.reference ≤ now := by
  have few : (clock.elapsed now).1 ≤ (now - clock.reference) / clock.period :=
    Nat.min_le_left _ _
  calc clock.reference + clock.period * (clock.elapsed now).1
    _ ≤ clock.reference + clock.period * ((now - clock.reference) / clock.period) :=
      Nat.add_le_add_left (Nat.mul_le_mul_left _ few) _
    _ ≤ clock.reference + (now - clock.reference) :=
      Nat.add_le_add_left (Nat.mul_div_le _ _) _
    _ = now := Nat.add_sub_cancel' reached

/-- An answer below its limit reports every whole period. -/
theorem elapsed_uncapped (uncapped : clock.Uncapped now) :
    (clock.elapsed now).1 = (now - clock.reference) / clock.period :=
  Nat.min_eq_left uncapped

/-- An answer that is not the greatest possible one reports every whole period. -/
theorem uncapped_of_lt (below : (clock.elapsed now).1 < maxPeriods) : clock.Uncapped now := by
  have limited : min ((now - clock.reference) / clock.period) maxPeriods < maxPeriods := below
  rcases Nat.le_total ((now - clock.reference) / clock.period) maxPeriods with within | beyond
  · exact within
  · rw [Nat.min_eq_right beyond] at limited
    exact absurd limited (Nat.lt_irrefl maxPeriods)

/-- After a question that reports every whole period the clock is current. -/
theorem current_elapsed (reached : clock.reference ≤ now) (uncapped : clock.Uncapped now) :
    (clock.elapsed now).2.Current now := by
  refine ⟨elapsed_reached reached, ?_⟩
  have rest : now - clock.reference <
      clock.period * ((now - clock.reference) / clock.period) + clock.period :=
    Nat.lt_mul_div_succ _ clock.period_pos
  have moved : (clock.elapsed now).2.reference =
      clock.reference + clock.period * ((now - clock.reference) / clock.period) := by
    rw [← elapsed_uncapped uncapped]
    rfl
  have same : (clock.elapsed now).2.period = clock.period := rfl
  rw [moved, same]
  lia

end Chip8.TimerClock
