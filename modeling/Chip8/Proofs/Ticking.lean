import Chip8.Proofs.Timeline

/-!
# A ticking clock

What a clock has still to report is the time since its reference, less than a period once it
has been asked. A completed instruction asks it, so the time before the instruction is counted
and a new rest of a period is carried on. A key wait that blocks does not ask it, and when it
ends the clock is set to that moment, at which it is then asked if it stands still meanwhile.
So what is not counted is more than the wait: it begins with the last instruction before the
cycle that blocks, and it includes the rest that was left at that instruction.

The invariant carries the rest from cycle to cycle. While the machine runs it is the time
since the reference of the clock; while it waits there is none.
-/

namespace Chip8

namespace Machine

/-- The state of a clock of some period at an instant. With `rest` of a period passed, the
machine is free and the reference lies so far back; or it waits, and then nothing of what has
passed will be counted. -/
inductive Ticking (machine : Machine) (period : Nat) (since : Instant) : Nat → Prop where
  | running (clock : TimerClock) (rest : Nat) (free : machine.waiting = none)
      (timed : machine.clock = some clock) (same : clock.period = period)
      (reached : clock.reference + rest = since) (short : rest < period) :
      Ticking machine period since rest
  | waiting (instruction : Instruction) (clock : TimerClock)
      (awaited : machine.waiting = some instruction)
      (timed : machine.clock = some clock) (same : clock.period = period) :
      Ticking machine period since 0

namespace Ticking

variable {machine : Machine} {period : Nat} {since : Instant} {rest : Nat}

/-- A free machine with a current clock. -/
theorem of_current {clock : TimerClock} (free : machine.waiting = none)
    (timed : machine.clock = some clock) (same : clock.period = period)
    (current : clock.Current since) : machine.Ticking period since (since - clock.reference) := by
  have reached := current.reached
  have recent := current.recent
  exact .running clock _ free timed same (Nat.add_sub_cancel' reached) (by lia)

/-- What has passed of a period is less than a period. -/
theorem rest_lt (ticking : machine.Ticking period since rest) : rest < period := by
  cases ticking with
  | running clock _ free timed same reached short => exact short
  | waiting instruction clock awaited timed same => exact same ▸ clock.period_pos

/-- A moment that leaves the clock and the wait as they were and takes no time. -/
theorem kept (ticking : machine.Ticking period since rest) {after : Machine}
    (clock : after.clock = machine.clock) (waiting : after.waiting = machine.waiting) :
    after.Ticking period since rest := by
  cases ticking with
  | running current _ free timed same reached short =>
    exact .running current _ (waiting.trans free) (clock.trans timed) same reached short
  | waiting instruction current awaited timed same =>
    exact .waiting instruction current (waiting.trans awaited) (clock.trans timed) same

end Ticking

end Machine

namespace Moment

/-- The periods counted in a moment and what is left of a period afterwards make up the time
in which the machine ran and what was left before, but a moment that blocks may lose up to
a period. -/
structure Accounts (moment : Moment) (period : Nat) (since : Instant) (rest left : Nat) :
    Prop where
  counted : period * moment.periods + left ≤ timeInto ran since [moment] + rest
  missed : timeInto ran since [moment] + rest ≤
    period * (moment.periods + if moment.blocks then 1 else 0) + left

variable {moment : Moment} {period rest left : Nat} {since now : Instant}

/-- Where no instruction is completed no period is counted. -/
theorem periods_incomplete (incomplete : moment.completes = false) : moment.periods = 0 := by
  unfold periods
  split <;> simp [incomplete]

/-- Where no instruction is completed the machine did not run. -/
theorem timeInto_incomplete (incomplete : moment.completes = false) :
    timeInto ran since [moment] = 0 := by
  simp [timeInto, ran, incomplete]

/-- In a moment in which the machine ran and that counts few periods the clock had no more to
report. -/
theorem uncapped_of_periods (ran : moment.ran = true)
    (few : moment.periods < TimerClock.maxPeriods) : moment.Uncapped := by
  intro counted instant clock timed
  obtain ⟨free, completed⟩ := Bool.and_eq_true_iff.mp ran
  obtain ⟨now, read, rfl⟩ := Option.map_eq_some_iff.mp instant
  have waitless : moment.before.waiting = none := Option.isNone_iff_eq_none.mp free
  have reported : moment.periods = (clock.elapsed now.counted).1 := by
    rw [Option.mem_def] at timed
    simp [periods, read, completed, Machine.periodsDue, Machine.clockAsked, timed, waitless]
  exact TimerClock.uncapped_of_lt (reported ▸ few)

/-- A moment that completes no instruction accounts for what was left before it. -/
theorem accounts_kept (incomplete : moment.completes = false) :
    moment.Accounts period since rest rest := by
  constructor <;> rw [periods_incomplete incomplete, timeInto_incomplete incomplete] <;> omega

/-- A moment that blocks may lose what was left before it. -/
theorem accounts_lost (incomplete : moment.completes = false) (blocking : moment.blocks = true)
    (short : rest < period) : moment.Accounts period since rest 0 := by
  constructor <;> rw [periods_incomplete incomplete, timeInto_incomplete incomplete]
  · omega
  · rw [if_pos blocking]
    omega

/-- A moment that ends a wait and counts nothing. -/
theorem accounts_resumed (awaited : moment.isFree = false) (uncounted : moment.periods = 0) :
    moment.Accounts period since 0 0 := by
  have idle : timeInto ran since [moment] = 0 := by simp [timeInto, ran, awaited]
  constructor <;> rw [uncounted, idle] <;> omega

/-- A moment in which the machine ran accounts for the time since the last one. -/
theorem accounts_ran (running : moment.ran = true) (timed : moment.instant? = some now)
    (balance : period * moment.periods + left = (now - since) + rest) :
    moment.Accounts period since rest left := by
  have spent : timeInto ran since [moment] = now - since := by simp [timeInto, running, timed]
  constructor
  · rw [spent]
    exact Nat.le_of_eq balance
  · rw [spent, ← balance]
    exact Nat.add_le_add_right (Nat.mul_le_mul_left _ (Nat.le_add_right _ _)) _

end Moment

namespace Machine

/-- Only cycles complete instructions. -/
theorem readings_of_completes {machine : Machine} {action : Action}
    (completed : (machine.act action).completes = true) :
    ∃ now, (machine.act action).readings? = some now := by
  rw [Moment.readings?, act_action]
  cases action with
  | cycle keyboard now => exact ⟨now, rfl⟩
  | load program => simp [Moment.completes, Moment.executed] at completed
  | pause => cases completed
  | present => cases completed

/-- A moment that blocks leaves the machine waiting. -/
theorem act_blocks {machine : Machine} {action : Action}
    (blocking : (machine.act action).blocks = true) :
    ∃ instruction, (machine.act action).after.waiting = some instruction := by
  obtain ⟨free, waits⟩ := Bool.and_eq_true_iff.mp blocking
  cases action with
  | cycle keyboard now =>
    obtain ⟨transition, course, acted⟩ := act_course machine keyboard now
    rw [acted] at free waits ⊢
    cases course with
    | halted | unknown | refused | resumed | executed => cases waits
    | waiting instruction running awaited => simp [Moment.isFree, awaited] at free
    | blocked instruction running vacant decoded awaits released => exact ⟨instruction, rfl⟩
  | load program => simp [Moment.waits] at waits
  | pause => cases waits
  | present => cases waits

/-- A moment that neither blocks nor completes an instruction leaves the wait as it was. -/
theorem act_waiting_kept {machine : Machine} {action : Action}
    (incomplete : (machine.act action).completes = false)
    (passing : (machine.act action).blocks = false) :
    (machine.act action).after.waiting = machine.waiting := by
  cases action with
  | cycle keyboard now =>
    obtain ⟨transition, course, acted⟩ := act_course machine keyboard now
    rw [acted] at incomplete passing ⊢
    cases course with
    | halted | waiting | unknown | refused => rfl
    | resumed | executed => cases incomplete
    | blocked instruction running vacant decoded awaits released =>
      simp [Moment.blocks, Moment.isFree, Moment.waits, vacant] at passing
  | load program => rw [after_load]
  | pause => rfl
  | present => rfl

/-- A completed instruction that no wait came before asks the clock. -/
theorem act_ran {machine : Machine} {action : Action} {clock : TimerClock} {now : Readings}
    {since : Instant} {rest : Nat} (free : machine.waiting = none)
    (timed : machine.clock = some clock) (completed : (machine.act action).completes = true)
    (read : (machine.act action).readings? = some now)
    (reached : clock.reference + rest = since) (later : since ≤ now.counted)
    (uncapped : clock.Uncapped now.counted) :
    ∃ left, (machine.act action).after.Ticking clock.period now.counted left ∧
      (machine.act action).Accounts clock.period since rest left := by
  have asked : (machine.act action).after.clock = some (clock.elapsed now.counted).2 := by
    rw [act_clock, read]
    simp [completed, clockAfter, clockAsked, timed, free]
  have ran : (machine.act action).ran = true := by
    simp [Moment.ran, Moment.isFree, completed, free]
  have due : (machine.act action).periods = (clock.elapsed now.counted).1 := by
    simp [Moment.periods, read, completed, periodsDue, clockAsked, timed, free]
  have current := TimerClock.current_elapsed (by lia) uncapped
  refine ⟨_, Ticking.of_current (act_free completed) asked rfl current,
    Moment.accounts_ran ran (instant_of_readings read) ?_⟩
  have moved : (clock.elapsed now.counted).2.reference =
      clock.reference + clock.period * (clock.elapsed now.counted).1 := rfl
  have before := current.reached
  rw [due]
  lia

/-- A completed instruction that ends a wait sets the clock, and asks it when nothing has
passed. -/
theorem act_resumed {machine : Machine} {action : Action} {clock : TimerClock}
    {instruction : Instruction} {now : Readings}
    (awaited : machine.waiting = some instruction) (timed : machine.clock = some clock)
    (completed : (machine.act action).completes = true)
    (read : (machine.act action).readings? = some now) (still : now.resumed = now.counted) :
    (machine.act action).after.Ticking clock.period now.counted 0 ∧
      ∀ since, (machine.act action).Accounts clock.period since 0 0 := by
  have within : now.counted < now.resumed + clock.period := by
    have positive := clock.period_pos
    lia
  have asked : (machine.act action).after.clock = some (clock.resync now.resumed) := by
    rw [act_clock, read]
    simp [completed, clockAfter, clockAsked, timed, awaited, clock.elapsed_resync within]
  have uncounted : (machine.act action).periods = 0 := by
    simp [Moment.periods, read, completed, periodsDue, clockAsked, timed, awaited,
      clock.elapsed_resync within]
  refine ⟨.running _ 0 (act_free completed) asked rfl still clock.period_pos,
    fun since => Moment.accounts_resumed ?_ uncounted⟩
  simp [Moment.isFree, awaited]

/-- One action keeps the clock ticking and accounts for the time. -/
theorem act_ticking {machine : Machine} {period : Nat} {since : Instant} {rest : Nat}
    (ticking : machine.Ticking period since rest) (action : Action) {later : List Moment}
    (orderly : Orderly since (machine.act action :: later))
    (uncapped : (machine.act action).ran = true → (machine.act action).Uncapped)
    (still : (machine.act action).isFree = false → (machine.act action).Still) :
    ∃ left, (machine.act action).after.Ticking period
        ((machine.act action).instant?.getD since) left ∧
      (machine.act action).Accounts period since rest left := by
  cases completed : (machine.act action).completes with
  | true =>
    obtain ⟨now, read⟩ := readings_of_completes completed
    have instant := instant_of_readings read
    rw [instant, Option.getD_some]
    cases ticking with
    | running clock _ free timed same reached short =>
      have ran : (machine.act action).ran = true := by
        simp [Moment.ran, Moment.isFree, completed, free]
      have fits : clock.Uncapped now.counted :=
        uncapped ran _ instant clock (by simpa using timed)
      exact same ▸ act_ran free timed completed read reached (orderly.le_instant instant) fits
    | waiting instruction clock awaited timed same =>
      have stands := still (by simp [Moment.isFree, awaited]) now read
      obtain ⟨goesOn, accounts⟩ := act_resumed awaited timed completed read stands
      exact ⟨0, same ▸ goesOn, same ▸ accounts since⟩
  | false =>
    have clockKept : (machine.act action).after.clock = machine.clock := by
      rw [act_clock, completed]
      split <;> rfl
    cases blocking : (machine.act action).blocks with
    | true =>
      obtain ⟨instruction, awaited⟩ := act_blocks blocking
      cases ticking with
      | running clock _ free timed same reached short =>
        exact ⟨0, .waiting instruction clock awaited (clockKept.trans timed) same,
          Moment.accounts_lost completed blocking short⟩
      | waiting other clock before =>
        simp [Moment.blocks, Moment.isFree, before] at blocking
    | false =>
      have waitKept := act_waiting_kept completed blocking
      refine ⟨rest, ?_, Moment.accounts_kept completed⟩
      cases instant : (machine.act action).instant? with
      | none => exact ticking.kept clockKept waitKept
      | some now =>
        -- A cycle that completes nothing and does not begin to block finds the machine waiting.
        cases ticking with
        | waiting instruction clock awaited timed same =>
          exact .waiting instruction clock (waitKept.trans awaited) (clockKept.trans timed) same
        | running clock _ free =>
          have kind := orderly.calm _ List.mem_cons_self (isCycle_of_instant instant)
          have waits := kind.resolve_left (by simp [completed])
          simp [Moment.blocks, Moment.isFree, free, waits] at blocking

/-- What a run counts. From a ticking clock on that stands still within each cycle that ends a
wait, the periods counted in a run do not exceed the time in which the machine ran and what
was left of a period at first, and they fall short of it by less than a period, and less than
another one for each wait that began. -/
theorem run_ticking {machine : Machine} {period : Nat} {since : Instant} {rest : Nat}
    (ticking : machine.Ticking period since rest) (actions : List Action)
    (orderly : Orderly since (machine.history actions))
    (uncapped : ∀ moment ∈ machine.history actions, moment.ran = true → moment.Uncapped)
    (still : ∀ moment ∈ machine.history actions, moment.isFree = false → moment.Still) :
    let periods := ((machine.history actions).map Moment.periods).sum
    let ran := timeInto Moment.ran since (machine.history actions)
    period * periods ≤ ran + rest ∧
      ran + rest < period * (periods + (machine.history actions).countP Moment.blocks + 1) := by
  induction actions generalizing machine since rest with
  | nil =>
    have short := ticking.rest_lt
    simpa [history, timeInto] using short
  | cons action later inductionHypothesis =>
    obtain ⟨first, others⟩ := List.forall_mem_cons.mp uncapped
    obtain ⟨stands, stand⟩ := List.forall_mem_cons.mp still
    obtain ⟨left, goesOn, accounts⟩ := act_ticking ticking action orderly first stands
    obtain ⟨counted, missed⟩ := inductionHypothesis goesOn orderly.tail others stand
    have spent := timeInto_cons Moment.ran since (machine.act action)
      ((machine.act action).after.history later)
    have before := accounts.counted
    have behind := accounts.missed
    simp only [history, List.map_cons, List.sum_cons, List.countP_cons, spent]
    simp only [Nat.mul_add] at missed behind ⊢
    constructor
    · omega
    · omega

/-- A clock of some period whose reference lies no later than an instant. -/
def Behind (machine : Machine) (period : Nat) (since : Instant) : Prop :=
  ∃ clock, machine.clock = some clock ∧ clock.period = period ∧ clock.reference ≤ since

/-- No cycle moves the reference past its own time. -/
theorem act_behind {machine : Machine} {period : Nat} {since : Instant}
    (behind : machine.Behind period since) (action : Action) {later : List Moment}
    (orderly : Orderly since (machine.act action :: later))
    (still : (machine.act action).isFree = false → (machine.act action).Still) :
    (machine.act action).after.Behind period ((machine.act action).instant?.getD since) := by
  obtain ⟨clock, timed, same, reached⟩ := behind
  cases read : (machine.act action).readings? with
  | none =>
    have instant : (machine.act action).instant? = none := by
      rw [Moment.instant?, read, Option.map_none]
    rw [instant]
    refine ⟨clock, ?_, same, reached⟩
    rw [act_clock, read]
    exact timed
  | some now =>
    have instant := instant_of_readings read
    have forward : clock.reference ≤ now.counted :=
      Nat.le_trans reached (orderly.le_instant instant)
    rw [Behind, act_clock, read, instant]
    cases completed : (machine.act action).completes with
    | false => exact ⟨clock, timed, same, forward⟩
    | true =>
      cases awaited : machine.waiting with
      | none =>
        refine ⟨(clock.elapsed now.counted).2, ?_, same, TimerClock.elapsed_reached forward⟩
        simp [clockAfter, clockAsked, timed, awaited]
      | some instruction =>
        have stands : now.resumed = now.counted :=
          still (by simp [Moment.isFree, awaited]) now read
        have restarted : (clock.resync now.resumed).reference ≤ now.counted :=
          Nat.le_of_eq stands
        refine ⟨((clock.resync now.resumed).elapsed now.counted).2, ?_, same,
          TimerClock.elapsed_reached restarted⟩
        simp [clockAfter, clockAsked, timed, awaited]

/-- No cycle of a run moves the reference past the last one. -/
theorem run_behind {machine : Machine} {period : Nat} {since : Instant}
    (behind : machine.Behind period since) (actions : List Action)
    (orderly : Orderly since (machine.history actions))
    (still : ∀ moment ∈ machine.history actions, moment.isFree = false → moment.Still) :
    (machine.run actions).Behind period (lastInstant since (machine.history actions)) := by
  induction actions generalizing machine since with
  | nil => exact behind
  | cons action later inductionHypothesis =>
    obtain ⟨stands, stand⟩ := List.forall_mem_cons.mp still
    rw [history, lastInstant_cons]
    exact inductionHypothesis (act_behind behind action orderly stands) orderly.tail stand

/-- A completed instruction whose question to the clock is answered in full leaves the clock
ticking. -/
theorem ticking_of_completes {machine : Machine} {action : Action} {period : Nat}
    {since : Instant} (behind : machine.Behind period since) {later : List Moment}
    (orderly : Orderly since (machine.act action :: later))
    (completed : (machine.act action).completes = true)
    (uncapped : (machine.act action).Uncapped)
    (still : (machine.act action).isFree = false → (machine.act action).Still) :
    ∃ rest, (machine.act action).after.Ticking period
      ((machine.act action).instant?.getD since) rest := by
  obtain ⟨clock, timed, same, reached⟩ := behind
  obtain ⟨now, read⟩ := readings_of_completes completed
  have instant := instant_of_readings read
  rw [instant, Option.getD_some, ← same]
  cases awaited : machine.waiting with
  | some instruction =>
    have stands := still (by simp [Moment.isFree, awaited]) now read
    exact ⟨0, (act_resumed awaited timed completed read stands).1⟩
  | none =>
    have answered : clock.Uncapped now.counted :=
      uncapped _ instant clock (by simpa using timed)
    obtain ⟨left, ticking, -⟩ := act_ran awaited timed completed read
      (Nat.add_sub_cancel' reached) (orderly.le_instant instant) answered
    exact ⟨left, ticking⟩

end Machine

end Chip8
