import Chip8.Proofs.Timers

/-!
# Timers that count instructions

With settings that name no rate a machine never has a clock, and every completed
instruction is one period: a resumed key wait like any other, but not a cycle that waits,
faults or finds the machine halted. So a timer shows the value it was last set to less the
number of instructions completed since, the one that set it included.
-/

namespace Chip8.Machine

/-- No action gives a machine a clock. -/
theorem act_untimed {machine : Machine} (untimed : machine.clock = none) (action : Action) :
    (machine.act action).after.clock = none := by
  have none_after (now : Readings) : machine.clockAfter now = none := by
    rw [clockAfter, clockAsked, untimed, Option.map_none, Option.map_none]
  rw [act_clock]
  split
  · rw [none_after, untimed, ite_self]
  · exact untimed

/-- Without a clock each completed instruction is one period. -/
theorem act_periods_untimed {machine : Machine} (untimed : machine.clock = none)
    (action : Action) :
    (machine.act action).periods = if (machine.act action).completes then 1 else 0 := by
  cases action with
  | cycle keyboard now =>
    have due : machine.periodsDue now = 1 := by
      rw [periodsDue, clockAsked, untimed, Option.map_none]
    rw [Moment.periods, Moment.readings?, act_action, act_before]
    simp only [Action.readings?, due]
  | load program =>
    simp [Moment.periods, Moment.readings?, Action.readings?, Moment.completes, Moment.executed]
  | pause => rfl
  | present => rfl

/-- Without a clock the periods of a run are its completed instructions. -/
theorem sum_periods_untimed {machine : Machine} (untimed : machine.clock = none)
    (actions : List Action) :
    ((machine.history actions).map Moment.periods).sum =
      (machine.history actions).countP Moment.completes := by
  induction actions generalizing machine with
  | nil => rfl
  | cons action later inductionHypothesis =>
    rw [history, List.map_cons, List.sum_cons, List.countP_cons, act_periods_untimed untimed,
      inductionHypothesis (act_untimed untimed action), Nat.add_comm]

/-- A beep is due exactly while the sound timer shows more than zero. -/
theorem soundActive_iff (machine : Machine) :
    machine.soundActive = true ↔ 0 < (machine.timer .sound).toNat := by
  rw [soundActive, decide_eq_true_iff]
  exact UInt8.lt_iff_toNat_lt

/-- Timers without a rate count completed instructions exactly. In every run from its
construction, of whatever actions, a timer of a machine shows the value it was last set
to, zero if it never was, less the number of instructions completed from the one that set
it on, stopping at zero; and a beep is due exactly while this difference is positive for
the sound timer.

Proof: a timer shows the value it was last set to less the periods since. There is no
clock at the beginning of the stretch since then, hence nowhere in it, so its periods are
its completed instructions. -/
theorem timers_count_instructions (settings : Settings) (start : Instant)
    (entropy : Random.StreamKey) (actions : List Action)
    (ticked : settings.timers = .perTick) :
    let machine := (boot settings start entropy).run actions
    let history := (boot settings start entropy).history actions
    ∀ timer : Timer, (∃ earlier since value, timer.LastSet history earlier since value) ∧
      ∀ earlier since value, timer.LastSet history earlier since value →
        (machine.timer timer).toNat = value.toNat - since.countP Moment.completes ∧
        (timer = .sound →
          (machine.soundActive = true ↔ 0 < value.toNat - since.countP Moment.completes)) := by
  intro machine history timer
  refine ⟨timer.exists_lastSet history, ?_⟩
  intro earlier since value last
  have shown : (machine.timer timer).toNat = value.toNat - since.countP Moment.completes := by
    obtain ⟨done, following, -, -, rfl⟩ := history_split _ _ _ _ last.cut
    have booted : (boot settings start entropy).clock = none := by simp only [boot, ticked]
    have untimed : ((boot settings start entropy).run done).clock = none :=
      @run_invariant (fun machine => machine.clock = none)
        (fun _ action bare => act_untimed bare action) _ done booted
    rw [← sum_periods_untimed untimed following]
    exact timer_lastSet settings start entropy timer actions last
  refine ⟨shown, ?_⟩
  rintro rfl
  rw [soundActive_iff, shown]

/-- `6005`, `F018`, `F10A` and an unknown opcode. -/
def beepThenWait : List UInt8 :=
  [0x60, 0x05, 0xF0, 0x18, 0xF1, 0x0A, 0x00, 0x00]

/-- After `F018`: a wait for a key with a present in it, a key, the fault, and what no longer
matters to the halted machine. -/
def afterBeep (pressed : Keyboard) : List Action :=
  [.cycle .idle (.still 0), .present, .cycle .idle (.still 0), .cycle pressed (.still 0),
    .cycle .idle (.still 0), .pause, .load [], .cycle .idle (.still 0)]

/-- Seven cycles, of which `F018` and the resumed `F10A` complete since the sound timer was
set to five: it shows three. -/
theorem beeping_shows_three :
    let settings : Settings := {}
    let later := afterBeep (.ofList [7])
    let actions := [.load beepThenWait, .cycle .idle (.still 0)] ++ .cycle .idle (.still 0) :: later
    let machine := (boot settings 0 (Vector.replicate 8 0)).run actions
    settings.timers = .perTick ∧ (machine.timer .sound).toNat = 5 - 2 ∧
      machine.soundActive = true := by
  intro settings later actions machine
  let first := boot settings 0 (Vector.replicate 8 0)
  let before := first.run [.load beepThenWait, .cycle .idle (.still 0)]
  let setting := before.act (.cycle .idle (.still 0))
  have wrote : setting.written? .sound = some 5 := by decide +kernel
  have kept : ∀ other ∈ setting.after.history later, other.written? .sound = none := by
    decide +kernel
  have completed :
      (setting :: setting.after.history later).countP Moment.completes = 2 := by
    decide +kernel
  have last : Timer.LastSet .sound (first.history actions)
      (first.history [.load beepThenWait, .cycle .idle (.still 0)])
      (setting :: setting.after.history later) 5 :=
    .once _ _ _ _ (history_append first _ _) wrote kept
  obtain ⟨-, counts⟩ :=
    timers_count_instructions settings 0 (Vector.replicate 8 0) actions rfl .sound
  obtain ⟨shown, beeping⟩ := counts _ _ _ last
  rw [completed] at shown beeping
  exact ⟨rfl, shown, (beeping rfl).mpr (by decide)⟩

end Chip8.Machine
