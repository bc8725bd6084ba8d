import Mathlib.Algebra.Order.BigOperators.Group.List
import Mathlib.Algebra.Order.Group.Nat
import Chip8.Proofs.Ticking

/-!
# The time that clocked timers count

Timers that follow a clock count the time in which instructions are completed, whatever the
number of waits in between. Each wait adds at most one period to the difference. The time
between the last instruction before a wait and the cycle that found no key held is time in
which the machine waited for nothing, and it is not counted either.
-/

namespace Chip8

/-- A number of periods near a time is near the number of whole periods in it. -/
theorem near_quotient {period count time rest waits : Nat} (short : rest < period)
    (counted : period * count ≤ time + rest)
    (missed : time + rest < period * (count + waits + 1)) :
    count ≤ time / period + 1 ∧ time / period ≤ count + waits := by
  constructor
  · have above : time < period * (time / period) + period := Nat.lt_mul_div_succ time (by omega)
    have bound : period * count < period * (time / period + 1 + 1) := by
      simp only [Nat.mul_add, Nat.mul_one]
      omega
    exact Nat.le_of_lt_succ (Nat.lt_of_mul_lt_mul_left bound)
  · exact Nat.le_of_lt_succ
      (Nat.div_lt_of_lt_mul (Nat.lt_of_le_of_lt (Nat.le_add_right _ _) missed))

namespace Machine

section Runs

variable (settings : Settings) (hz : UInt32) (start : Instant) (entropy : Random.StreamKey)
  (timer : Timer)

/-- An instruction that completes and whose question to the clock is answered in full leaves
a ticking clock, and what follows on it is orderly. -/
theorem ticking_after (earlier : List Action) (first : Action) (later : List Action)
    (clocked : settings.timers = .clocked hz)
    (orderly : Orderly start ((boot settings start entropy).history (earlier ++ first :: later)))
    (still : ∀ moment ∈ (boot settings start entropy).history (earlier ++ first :: later),
      moment.isFree = false → moment.Still) :
    let moment := ((boot settings start entropy).run earlier).act first
    let since := moment.instant?.getD start
    moment.completes = true → moment.Uncapped →
    (∀ other ∈ moment.after.history later, other.isFree = false → other.Still) ∧
    Orderly since (moment.after.history later) ∧
      ∃ rest, moment.after.Ticking (TimerClock.periodOf hz) since rest := by
  intro moment since completed uncapped
  have booted : (boot settings start entropy).Behind (TimerClock.periodOf hz) start :=
    ⟨.start hz start, by simp only [boot, clocked], rfl, Nat.le_refl start⟩
  have cut : (boot settings start entropy).history (earlier ++ first :: later) =
      (boot settings start entropy).history earlier ++ moment :: moment.after.history later :=
    history_append _ _ _
  rw [cut] at orderly still
  obtain ⟨before, onwards⟩ := orderly.split
  obtain ⟨stoodBefore, stands⟩ := List.forall_mem_append.mp still
  obtain ⟨stood, standsAfter⟩ := List.forall_mem_cons.mp stands
  have stretch := onwards.tail
  have ticking := ticking_of_completes (run_behind booted earlier before stoodBefore) onwards
    completed uncapped stood
  -- A completed instruction has a time, so it does not matter which one stands in for it.
  obtain ⟨now, read⟩ := readings_of_completes completed
  have instant := instant_of_readings read
  simp only [since]
  rw [instant, Option.getD_some] at stretch ticking ⊢
  exact ⟨standsAfter, stretch, ticking⟩

/-- A timer that was not set and shows more than zero has lost the periods of all moments,
which are fewer than 256. -/
theorem lost_eq_periods (earlier later : List Action)
    (unset : ∀ moment ∈ ((boot settings start entropy).run earlier).history later,
      moment.written? timer = none)
    (counting : (((boot settings start entropy).run earlier).run later).timer timer ≠ 0) :
    let periods :=
      ((((boot settings start entropy).run earlier).history later).map Moment.periods).sum
    (((boot settings start entropy).run earlier).timer timer).toNat -
        ((((boot settings start entropy).run earlier).run later).timer timer).toNat = periods ∧
      periods < 256 := by
  intro periods
  have shown := run_countsDown settings start entropy timer earlier later unset
  rw [run_append] at shown
  have positive : ((((boot settings start entropy).run earlier).run later).timer timer).toNat ≠ 0 :=
    fun zero => counting (UInt8.toNat_inj.mp zero)
  have small : (((boot settings start entropy).run earlier).timer timer).toNat < 256 :=
    UInt8.toNat_lt _
  constructor
  · omega
  · omega

/-- Clocked timers count the time in which the machine runs, on a clock that stands still within
each cycle that ends a wait. Take any instruction of a run that completes and finds no more
periods than the clock can report at once, and any later moment at which a timer that was not
set since still shows more than zero. What the timer has lost in between differs from the whole
periods of the time in which the machine ran by at most one period, and by one more for each
wait that began. This is the time in which it waited for no key, without the time from the last
instruction before each wait to the cycle that found no key held.

Proof: the timer has lost exactly the periods of the moments in between, since it did not
reach zero. These are fewer than 256, so no answer of the clock was at its limit, and the
account of the ticking clock bounds them from both sides. -/
theorem timers_count_running_time (earlier : List Action) (first : Action) (later : List Action)
    (clocked : settings.timers = .clocked hz)
    (orderly : Orderly start ((boot settings start entropy).history (earlier ++ first :: later)))
    (still : ∀ moment ∈ (boot settings start entropy).history (earlier ++ first :: later),
      moment.isFree = false → moment.Still) :
    let moment := ((boot settings start entropy).run earlier).act first
    let since := moment.instant?.getD start
    let history := moment.after.history later
    let lost := (moment.after.timer timer).toNat -
      ((moment.after.run later).timer timer).toNat
    let ran := timeInto Moment.ran since history
    moment.completes = true → moment.Uncapped →
    (∀ other ∈ history, other.written? timer = none) →
    (moment.after.run later).timer timer ≠ 0 →
    ran + timeInto Moment.blocks since history = timeInto Moment.isFree since history ∧
      lost ≤ ran / TimerClock.periodOf hz + 1 ∧
      ran / TimerClock.periodOf hz ≤ lost + history.countP Moment.blocks := by
  intro moment since history lost ran completed uncapped unset counting
  obtain ⟨stands, stretch, rest, ticking⟩ :=
    ticking_after settings hz start entropy earlier first later clocked orderly still completed
      uncapped
  have reached : (boot settings start entropy).run (earlier ++ [first]) = moment.after :=
    run_append _ _ _
  have drop := lost_eq_periods settings start entropy timer (earlier ++ [first]) later
  rw [reached] at drop
  obtain ⟨exact, few⟩ := drop unset counting
  have reports : ∀ other ∈ history, other.ran = true → other.Uncapped := by
    intro other member ran
    apply Moment.uncapped_of_periods ran
    calc other.periods
      _ ≤ (history.map Moment.periods).sum := List.le_sum_of_mem (List.mem_map_of_mem member)
      _ < 256 := few
      _ ≤ TimerClock.maxPeriods := by decide
  obtain ⟨counted, missed⟩ := run_ticking ticking later stretch reports stands
  refine ⟨(timeInto_isFree stretch).symm, ?_⟩
  simp only [lost]
  rw [exact]
  exact near_quotient ticking.rest_lt counted missed

end Runs

/-- A machine whose timers beat four times a second, that is every 250 milliseconds. -/
def fourBeats : Machine :=
  boot { timers := .clocked 4 } 0 (Vector.replicate 8 0)

/-- `60C8`, `F015`, then twice `7101` and `F10A`, and `7101`. -/
def twoWaits : List UInt8 :=
  [0x60, 0xC8, 0xF0, 0x15, 0x71, 0x01, 0xF1, 0x0A, 0x71, 0x01, 0xF1, 0x0A, 0x71, 0x01]

/-- Both waits block and end at once, 240 milliseconds after the instruction before last. -/
def throughTwoWaits (pressed : Keyboard) : List Action :=
  let first : Readings := .still 240000000
  let second : Readings := .still 480000000
  [.cycle .idle first, .cycle .idle first, .cycle pressed first,
    .cycle .idle second, .cycle .idle second, .cycle pressed second,
    .cycle .idle (.still 720000000)]

/-- The machine runs for 720 milliseconds, and each of the two waits takes the 240
milliseconds left of a period: the timer loses nothing, two less than the whole periods. -/
theorem two_waits_lose_two :
    let later := throughTwoWaits (.ofList [5])
    let earlier := [.load twoWaits, .cycle .idle (.still 0)]
    let moment := (fourBeats.run earlier).act (.cycle .idle (.still 0))
    let history := moment.after.history later
    let ran := timeInto Moment.ran 0 history
    (Orderly 0 (fourBeats.history (earlier ++ .cycle .idle (.still 0) :: later)) ∧
      (∀ other ∈ fourBeats.history (earlier ++ .cycle .idle (.still 0) :: later),
        other.isFree = false → other.Still) ∧
      moment.completes = true ∧ moment.Uncapped ∧
      (∀ other ∈ history, other.written? .delay = none) ∧
      (moment.after.run later).timer .delay = 200) ∧
    ran / TimerClock.periodOf 4 = 2 ∧
    ran / TimerClock.periodOf 4 ≤ 0 + history.countP Moment.blocks := by
  intro later earlier moment history ran
  have orderly : Orderly 0 (fourBeats.history (earlier ++ .cycle .idle (.still 0) :: later)) :=
    ⟨by decide +kernel, by decide +kernel⟩
  have still : ∀ other ∈ fourBeats.history (earlier ++ .cycle .idle (.still 0) :: later),
      other.isFree = false → other.Still := by decide +kernel
  obtain ⟨completed, uncapped, set, unset, shown, whole⟩ :
      moment.completes = true ∧ moment.Uncapped ∧ moment.after.timer .delay = 200 ∧
      (∀ other ∈ history, other.written? .delay = none) ∧
      (moment.after.run later).timer .delay = 200 ∧
      ran / TimerClock.periodOf 4 = 2 := by decide +kernel
  have counting : (moment.after.run later).timer .delay ≠ 0 := by
    rw [shown]
    decide
  obtain ⟨-, -, bounded⟩ := timers_count_running_time { timers := .clocked 4 } 4 0
    (Vector.replicate 8 0) .delay earlier (.cycle .idle (.still 0)) later rfl orderly still
    completed uncapped unset counting
  have lost : (moment.after.timer .delay).toNat -
      ((moment.after.run later).timer .delay).toNat = 0 := by
    rw [set, shown]
    rfl
  exact ⟨⟨orderly, still, completed, uncapped, unset, shown⟩, whole, lost ▸ bounded⟩

/-- `60C8`, `F015`, `F10A` and `7101`. -/
def oneWait : List UInt8 :=
  [0x60, 0xC8, 0xF0, 0x15, 0xF1, 0x0A, 0x71, 0x01]

/-- The wait blocks 1040 milliseconds after the timer was set, and a key ends it at once. -/
def throughOneWait (pressed : Keyboard) : List Action :=
  [.cycle .idle (.still 1040000000), .cycle pressed (.still 1040000000),
    .cycle .idle (.still 1040000000)]

/-- The machine waits for no time at all, and still none of the four periods before its wait is
counted. So what a timer loses need not be near the time in which no wait was going on. -/
theorem time_before_wait_lost :
    let later := throughOneWait (.ofList [5])
    let earlier := [.load oneWait, .cycle .idle (.still 0)]
    let moment := (fourBeats.run earlier).act (.cycle .idle (.still 0))
    let history := moment.after.history later
    let lost := (moment.after.timer .delay).toNat -
      ((moment.after.run later).timer .delay).toNat
    let free := timeInto Moment.isFree 0 history
    (Orderly 0 (fourBeats.history (earlier ++ .cycle .idle (.still 0) :: later)) ∧
      (∀ other ∈ fourBeats.history (earlier ++ .cycle .idle (.still 0) :: later), other.Still) ∧
      moment.completes = true ∧ (∀ last ∈ history.getLast?, last.completes = true) ∧
      (∀ other ∈ history, other.written? .delay = none) ∧
      (moment.after.run later).timer .delay ≠ 0) ∧
    free / TimerClock.periodOf 4 = 4 ∧
    ¬ (lost ≤ free / TimerClock.periodOf 4 + 1 ∧ free / TimerClock.periodOf 4 ≤ lost + 1) := by
  intro later earlier moment history lost free
  have orderly : Orderly 0 (fourBeats.history (earlier ++ .cycle .idle (.still 0) :: later)) :=
    ⟨by decide +kernel, by decide +kernel⟩
  have stands : ∀ other ∈ fourBeats.history (earlier ++ .cycle .idle (.still 0) :: later),
      other.Still := by decide +kernel
  obtain ⟨completed, set, ends, unset, shown, counted⟩ :
      moment.completes = true ∧ moment.after.timer .delay = 200 ∧
      (∀ last ∈ history.getLast?, last.completes = true) ∧
      (∀ other ∈ history, other.written? .delay = none) ∧
      (moment.after.run later).timer .delay = 200 ∧
      free / TimerClock.periodOf 4 = 4 := by decide +kernel
  have still : lost = 0 := by
    simp only [lost]
    rw [set, shown]
    rfl
  refine ⟨⟨orderly, stands, completed, ends, unset, ?_⟩, counted, ?_⟩
  · rw [shown]
    decide
  · rw [counted, still]
    decide

end Machine

end Chip8
