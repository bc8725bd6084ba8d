import Chip8.Proofs.TimerClock
import Chip8.Proofs.Duration

/-!
# Time kept by a clock

From the instant to which a clock was set it is only asked, at any instants in order. Every
answer moves the reference on by the periods it reports, so the reference always lies as many
periods beyond that instant as were reported so far, and it never passes the instant of a
question. So no period is reported before it is over, and none is reported twice. A period is
held back only by an answer at its limit, and later answers report as many of those held back
as they can hold.
-/

namespace Chip8.TimerClock

/-- The clocks of a rate, whatever they were asked and to whatever instants they were set. -/
inductive OfRate (hz : UInt32) : TimerClock → Prop where
  | start (now : Instant) : OfRate hz (start hz now)
  | elapsed {clock : TimerClock} (made : OfRate hz clock) (now : Instant) :
      OfRate hz (clock.elapsed now).2
  | resync {clock : TimerClock} (made : OfRate hz clock) (now : Instant) :
      OfRate hz (clock.resync now)

/-- A clock of a rate that was just started at an instant, or set to it. -/
inductive SetTo (hz : UInt32) (origin : Instant) : TimerClock → Prop where
  | started : SetTo hz origin (start hz origin)
  | resynced {clock : TimerClock} (made : OfRate hz clock) : SetTo hz origin (clock.resync origin)

/-- The clock after questions at some instants. -/
def asked (clock : TimerClock) (instants : List Instant) : TimerClock :=
  instants.foldl (fun clock now => (clock.elapsed now).2) clock

/-- The answers to questions at some instants. -/
def answers (clock : TimerClock) : List Instant → List Nat
  | [] => []
  | now :: later => (clock.elapsed now).1 :: (clock.elapsed now).2.answers later

/-- The whole periods over at an instant that no answer has reported. -/
def due (clock : TimerClock) (now : Instant) : Nat :=
  (now - clock.reference) / clock.period

variable {clock : TimerClock} {hz : UInt32} {origin now : Instant}

/-- Neither questions nor settings change the period. -/
theorem OfRate.period (made : OfRate hz clock) : clock.period = periodOf hz := by
  induction made with
  | start now => rfl
  | elapsed made now inductionHypothesis => exact inductionHypothesis
  | resync made now inductionHypothesis => exact inductionHypothesis

/-- A clock that is set has the period of its rate. -/
theorem SetTo.period (set : SetTo hz origin clock) : clock.period = periodOf hz := by
  cases set with
  | started => rfl
  | resynced made => exact made.period

/-- A clock that is set counts from its origin. -/
theorem SetTo.reference (set : SetTo hz origin clock) : clock.reference = origin := by
  cases set <;> rfl

/-- No answer exceeds the cap. -/
theorem elapsed_le (clock : TimerClock) (now : Instant) : (clock.elapsed now).1 ≤ maxPeriods :=
  Nat.min_le_right _ _

/-- One question more asks the clock that the earlier ones left. -/
theorem asked_concat (clock : TimerClock) (instants : List Instant) (now : Instant) :
    clock.asked (instants ++ [now]) = ((clock.asked instants).elapsed now).2 :=
  List.foldl_concat _ _ _ _

/-- Questions do not change the period. -/
theorem period_asked (clock : TimerClock) (instants : List Instant) :
    (clock.asked instants).period = clock.period := by
  induction instants generalizing clock with
  | nil => rfl
  | cons now later inductionHypothesis => exact inductionHypothesis (clock.elapsed now).2

/-- No period is longer than a second. -/
theorem periodOf_le (hz : UInt32) : periodOf hz ≤ 1000000000 :=
  Nat.max_le.mpr ⟨Nat.div_le_self _ _, by decide⟩

/-- The reference moves by the periods reported and by nothing else. -/
theorem reference_asked (clock : TimerClock) (instants : List Instant) :
    (clock.asked instants).reference =
      clock.reference + clock.period * (clock.answers instants).sum := by
  induction instants generalizing clock with
  | nil => rfl
  | cons now later inductionHypothesis =>
    calc ((clock.elapsed now).2.asked later).reference
      _ = clock.reference + clock.period * (clock.elapsed now).1 +
          clock.period * ((clock.elapsed now).2.answers later).sum := inductionHypothesis _
      _ = clock.reference + clock.period * (clock.answers (now :: later)).sum := by
        rw [answers, List.sum_cons, Nat.mul_add, Nat.add_assoc]

/-- Questions at instants in order leave the reference behind every later instant. -/
theorem asked_reached {instants : List Instant} (behind : clock.reference ≤ origin)
    (ordered : (origin :: (instants ++ [now])).Pairwise (· ≤ ·)) :
    (clock.asked instants).reference ≤ now := by
  induction instants generalizing clock origin with
  | nil => exact Nat.le_trans behind (List.rel_of_pairwise_cons ordered List.mem_cons_self)
  | cons instant later inductionHypothesis =>
    have first : origin ≤ instant := List.rel_of_pairwise_cons ordered List.mem_cons_self
    exact inductionHypothesis (elapsed_reached (Nat.le_trans behind first)) ordered.of_cons

/-- The periods reported are due no more. -/
theorem due_asked (clock : TimerClock) (instants : List Instant) (now : Instant) :
    (clock.asked instants).due now = clock.due now - (clock.answers instants).sum := by
  rw [due, reference_asked, period_asked, ← Nat.sub_sub, Nat.sub_mul_div, due]

/-- Questions from an instant on report all that is due at it, or as much as their answers can
hold. -/
theorem due_le_sum_answers (clock : TimerClock) (now : Instant) {later : List Instant}
    (behind : ∀ instant ∈ later, now ≤ instant) :
    min (clock.due now) (maxPeriods * later.length) ≤ (clock.answers later).sum := by
  induction later generalizing clock with
  | nil => exact Nat.min_le_right _ _
  | cons instant rest inductionHypothesis =>
    obtain ⟨after, others⟩ := List.forall_mem_cons.mp behind
    have grown : clock.due now ≤ clock.due instant :=
      Nat.div_le_div_right (Nat.sub_le_sub_right after clock.reference)
    have answered : (clock.elapsed instant).1 = min (clock.due instant) maxPeriods := rfl
    have left : (clock.elapsed instant).2.due now = clock.due now - (clock.elapsed instant).1 :=
      due_asked clock [instant] now
    have followed := inductionHypothesis (clock.elapsed instant).2 others
    rw [answers, List.sum_cons, List.length_cons, Nat.mul_succ]
    omega

/-- After questions at instants in order, of which the last is not answered at the limit, the
clock is current. -/
theorem current_asked {instants : List Instant} (behind : clock.reference ≤ origin)
    (ordered : (origin :: (instants ++ [now])).Pairwise (· ≤ ·))
    (below : ((clock.asked instants).elapsed now).1 ≠ maxPeriods) :
    (clock.asked (instants ++ [now])).Current now := by
  have few := elapsed_le (clock.asked instants) now
  have uncapped := uncapped_of_lt (Nat.lt_of_le_of_ne few below)
  rw [asked_concat]
  exact current_elapsed (asked_reached behind ordered) uncapped

/-- The periods of an answer make up a duration. -/
theorem exists_duration (hz : UInt32) {answer : Nat} (few : answer ≤ maxPeriods) :
    ∃ beat product : Duration, Duration.ofRate? hz = some beat ∧ beat.toNat = periodOf hz ∧
      beat.times? (UInt32.ofNat answer) = some product ∧
      product.toNat = periodOf hz * answer := by
  obtain ⟨beat, rated, length⟩ := Duration.exists_ofRate hz
  have short : beat.toNat ≤ 1000000000 := length ▸ periodOf_le hz
  obtain ⟨product, taken, whole⟩ := Duration.exists_times short (UInt32.ofNat answer)
  have narrow : (UInt32.ofNat answer).toNat = answer :=
    UInt32.toNat_ofNat_of_lt' (Nat.lt_succ_of_le few)
  rw [length, narrow] at whole
  exact ⟨beat, product, rated, length, taken, whole⟩

/-- A reference some periods beyond an instant, and less than a period before another, counts the
whole periods between the two. -/
theorem eq_periods_between {origin now reference period total : Nat}
    (moved : reference = origin + period * total) (reached : reference ≤ now)
    (recent : now < reference + period) : total = (now - origin) / period := by
  rw [Nat.mul_comm] at moved
  have atLeast : total * period ≤ now - origin := by omega
  have below : now - origin < (total + 1) * period := by
    rw [Nat.add_mul, Nat.one_mul]
    omega
  exact (Nat.div_eq_of_lt_le atLeast below).symm

/-- A clock keeps time. Let it be of any rate, just started at an instant or set to it, and
asked at any instants in order from there on. Its period is a second divided by the rate, where
no rate is below one beat per second and no period below a nanosecond. After every answer the
reference lies beyond the first instant by the periods of all answers so far, and it has not
passed the instant of the question. Unless the answer is at its limit, less than a period lies
between the two, and the answers come to all whole periods since the first instant. What an
answer at its limit leaves is reported by later answers, or as much of it as they can hold. The
periods of an answer always make up a duration.

Proof: answers move the reference by what they report, by induction on the questions, and no
question moves it past its own instant. What is due is reduced by what is reported and grows in
time, so each later answer is full or reports all that was left. A period is at most a second
and an answer less than 2³², so their product is far below the longest duration. -/
theorem keeps_time (set : SetTo hz origin clock) (earlier later : List Instant)
    (ordered : (origin :: (earlier ++ now :: later)).Pairwise (· ≤ ·)) :
    let period := max 1 (1000000000 / max hz.toNat 1)
    let answer := ((clock.asked earlier).elapsed now).1
    let total := (clock.answers (earlier ++ [now])).sum
    let after := clock.asked (earlier ++ [now])
    clock.period = period ∧
    after.reference = origin + period * total ∧
    after.reference ≤ now ∧
    (answer ≠ maxPeriods →
      now - after.reference < period ∧ total = (now - origin) / period) ∧
    min ((now - origin) / period - total) (maxPeriods * later.length) ≤
      (after.answers later).sum ∧
    ∃ beat product : Duration, Duration.ofRate? hz = some beat ∧ beat.toNat = period ∧
      beat.times? (UInt32.ofNat answer) = some product ∧ product.toNat = period * answer := by
  intro period answer total after
  have beats : periodOf hz = period := Nat.max_comm _ _
  have same : clock.period = period := set.period.trans beats
  have behind : clock.reference ≤ origin := Nat.le_of_eq set.reference
  have moved : after.reference = origin + period * total := by
    rw [← same, ← set.reference]
    exact reference_asked clock _
  have upToNow : (origin :: (earlier ++ [now])).Pairwise (· ≤ ·) := by
    rw [List.append_cons, ← List.cons_append] at ordered
    exact (List.pairwise_append.mp ordered).1
  have fromNow : (now :: later).Pairwise (· ≤ ·) := by
    rw [← List.cons_append] at ordered
    exact (List.pairwise_append.mp ordered).2.1
  have reached : after.reference ≤ now := by
    have last : after = ((clock.asked earlier).elapsed now).2 := asked_concat clock earlier now
    rw [last]
    exact elapsed_reached (asked_reached behind upToNow)
  have left : after.due now = (now - origin) / period - total := by
    rw [due_asked, due, set.reference, same]
  refine ⟨same, moved, reached, ?_, ?_, ?_⟩
  · intro below
    have recent : now < after.reference + period :=
      ((period_asked clock _).trans same) ▸ (current_asked behind upToNow below).recent
    exact ⟨Nat.sub_lt_left_of_lt_add reached recent, eq_periods_between moved reached recent⟩
  · rw [← left]
    exact due_le_sum_answers after now fun _ => List.rel_of_pairwise_cons fromNow
  · exact beats ▸ exists_duration hz (elapsed_le _ _)

/-- With a nanosecond for a period, nine seconds are more than an answer can hold. The first
answer is at its limit; asked twice more at the same instant, the clock has reported every
period. -/
theorem nine_seconds_in_three_answers :
    let clock := ((start 0xFFFFFFFF 7).elapsed 100).2.resync 1000
    let now : Instant := 9000001000
    clock.SetTo 0xFFFFFFFF 1000 ∧ (1000 :: ([1003] ++ now :: [now, now])).Pairwise (· ≤ ·) ∧
      ((clock.asked [1003]).elapsed now).1 = maxPeriods ∧
      4705032702 ≤ ((clock.asked [1003, now]).answers [now, now]).sum ∧
      ((clock.asked [1003, now, now]).elapsed now).1 ≠ maxPeriods ∧
      (clock.answers [1003, now, now, now]).sum = 9000000000 := by
  intro clock now
  have set : clock.SetTo 0xFFFFFFFF 1000 := .resynced (.elapsed (.start 7) 100)
  have ordered : (1000 :: ([1003] ++ now :: [now, now])).Pairwise (· ≤ ·) := by decide
  have full : ((clock.asked [1003]).elapsed now).1 = maxPeriods := by decide
  have few : ((clock.asked [1003, now, now]).elapsed now).1 ≠ maxPeriods := by decide
  obtain ⟨-, -, -, -, madeUp, -⟩ := keeps_time set [1003] [now, now] ordered
  obtain ⟨-, -, -, exact, -⟩ := keeps_time set [1003, now, now] [] ordered
  exact ⟨set, ordered, full, Nat.le_trans (by decide) madeUp, few,
    (exact few).2.trans (by decide)⟩

end Chip8.TimerClock
