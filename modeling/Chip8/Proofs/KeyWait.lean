import Chip8.Proofs.Cycle
import Chip8.Proofs.Decoding

/-!
# Key waits

A key wait that finds no key held blocks the machine until a cycle finds one. However
long that takes and however often the screen is presented meanwhile, nothing happens
to the machine but that it waits. The cycle that finds a key completes the instruction
exactly as if the key had been held from the beginning. Timers that follow a clock are
the exception: the clock starts again within the cycle that ends the wait, so the time
that has passed since the instruction before it is not counted. The same cycle asks the
clock once more, and finds no period over unless a whole one has passed by then.

The two ways through the machine, blocking and resuming or completing at once, are
computed separately and then compared field by field.
-/

namespace Chip8

/-- There is no lowest held key exactly when none is held. -/
theorem Keyboard.lowest_eq_none_iff (keyboard : Keyboard) :
    keyboard.lowest = none ↔ keyboard.held = [] := by
  cases held : keyboard.held <;> simp [lowest, held]

/-- A clock asked within a period of its restart reports no period. -/
theorem TimerClock.elapsed_resync (clock : TimerClock) {resumed counted : Instant}
    (within : counted < resumed + clock.period) :
    (clock.resync resumed).elapsed counted = (0, clock.resync resumed) := by
  have short : counted - resumed < clock.period := by
    have positive := clock.period_pos
    lia
  simp [elapsed, resync, Nat.div_eq_of_lt short]

namespace Action

/-- An action that ends no key wait: a cycle with no key held, or a present. -/
def Idle : Action → Prop
  | .cycle keyboard _ => keyboard.held = []
  | .present => True
  | .load _ | .pause => False

/-- Whether the action is a cycle. -/
def isCycle : Action → Bool
  | .cycle .. => true
  | _ => false

/-- Whether the action is a present. -/
def isPresent : Action → Bool
  | .present => true
  | _ => false

end Action

namespace Machine

/-- The machine as the presents among some actions leave it: after one or more of them
its touched cells are forgotten. -/
def presentedBy (machine : Machine) (actions : List Action) : Machine :=
  if actions.any Action.isPresent then machine.present.2 else machine

/-- Cycles do not count among the presents. -/
theorem presentedBy_cycle (machine : Machine) (keyboard : Keyboard) (now : Readings)
    (later : List Action) :
    machine.presentedBy (.cycle keyboard now :: later) = machine.presentedBy later := by
  simp [presentedBy, Action.isPresent]

/-- Presents do not halt. -/
theorem presentedBy_halted (machine : Machine) (actions : List Action) :
    (machine.presentedBy actions).halted = machine.halted := by
  unfold presentedBy
  split <;> rfl

/-- Presents do not end a wait. -/
theorem presentedBy_waiting (machine : Machine) (actions : List Action) :
    (machine.presentedBy actions).waiting = machine.waiting := by
  unfold presentedBy
  split <;> rfl

/-- Presenting a second time changes nothing. -/
theorem presentedBy_present (machine : Machine) (later : List Action) :
    machine.presentedBy (.present :: later) = machine.present.2.presentedBy later := by
  simp [presentedBy, Action.isPresent, present, Screen.clearDirty]

end Machine

/-- If the moment is a cycle, the machine waited for a key in it. -/
def Moment.Blocked (moment : Moment) : Prop :=
  ∀ result, moment.answer = .cycled result → result = .ok .waitingForKey

namespace Machine

/-- A present is no cycle that could do anything but wait. -/
theorem blocked_present (machine : Machine) : (machine.act .present).Blocked := by
  intro result answered
  cases answered

/-- In a cycle that answers so the machine waited. -/
theorem blocked_cycle {machine : Machine} {keyboard : Keyboard} {now : Readings}
    (waited : (machine.cycle keyboard now).result = .ok .waitingForKey) :
    (machine.act (.cycle keyboard now)).Blocked := by
  intro result answered
  cases answered
  exact waited

/-- A waiting machine goes through idle actions unchanged, apart from the presents. -/
theorem run_waiting {instruction : Instruction} (machine : Machine) (actions : List Action)
    (running : machine.halted = false) (awaited : machine.waiting = some instruction)
    (idle : ∀ action ∈ actions, action.Idle) :
    machine.run actions = machine.presentedBy actions ∧
      ∀ moment ∈ machine.history actions, moment.Blocked := by
  induction actions generalizing machine with
  | nil => exact ⟨rfl, fun moment member => absurd member List.not_mem_nil⟩
  | cons action later inductionHypothesis =>
    obtain ⟨actionIdle, laterIdle⟩ := List.forall_mem_cons.mp idle
    cases action with
    | cycle keyboard now =>
      have released := keyboard.lowest_eq_none_iff.mpr actionIdle
      have stays := cycle_waiting now running awaited released
      have after : (machine.act (.cycle keyboard now)).after = machine := by
        rw [after_cycle, stays]
      obtain ⟨reached, blocked⟩ := inductionHypothesis machine running awaited laterIdle
      rw [run, history, after, presentedBy_cycle]
      exact ⟨reached, List.forall_mem_cons.mpr ⟨blocked_cycle (by rw [stays]), blocked⟩⟩
    | present =>
      obtain ⟨reached, blocked⟩ :=
        inductionHypothesis machine.present.2 running awaited laterIdle
      rw [run, history, after_present, presentedBy_present]
      exact ⟨reached, List.forall_mem_cons.mpr ⟨blocked_present machine, blocked⟩⟩
    | load program => cases actionIdle
    | pause => cases actionIdle

/-- A machine at a key wait goes through idle actions to the waiting machine, as soon
as one of them is a cycle. Presents before that cycle change only the touched cells. -/
theorem run_awaiting {instruction : Instruction} (machine : Machine) (actions : List Action)
    (running : machine.halted = false) (free : machine.waiting = none)
    (decoded : Instruction.decode machine.fetch = .ok instruction)
    (awaits : instruction.command = .awaitKey)
    (idle : ∀ action ∈ actions, action.Idle) (cycled : actions.any Action.isCycle = true) :
    machine.run actions =
        { machine with waiting := some instruction }.presentedBy actions ∧
      ∀ moment ∈ machine.history actions, moment.Blocked := by
  induction actions generalizing machine with
  | nil => cases cycled
  | cons action later inductionHypothesis =>
    obtain ⟨actionIdle, laterIdle⟩ := List.forall_mem_cons.mp idle
    cases action with
    | cycle keyboard now =>
      have released := keyboard.lowest_eq_none_iff.mpr actionIdle
      have blocks := cycle_blocked now running free decoded awaits released
      have after : (machine.act (.cycle keyboard now)).after =
          { machine with waiting := some instruction } := by
        rw [after_cycle, blocks]
      obtain ⟨reached, blocked⟩ :=
        run_waiting { machine with waiting := some instruction } later running rfl laterIdle
      rw [run, history, after, presentedBy_cycle]
      exact ⟨reached, List.forall_mem_cons.mpr ⟨blocked_cycle (by rw [blocks]), blocked⟩⟩
    | present =>
      obtain ⟨reached, blocked⟩ :=
        inductionHypothesis machine.present.2 running free decoded laterIdle cycled
      rw [run, history, after_present, presentedBy_present]
      exact ⟨reached, List.forall_mem_cons.mpr ⟨blocked_present machine, blocked⟩⟩
    | load program => cases actionIdle
    | pause => cases actionIdle

/-- Presents before the end of a wait might as well come after it. -/
theorem resumed_presentedBy (machine : Machine) (actions : List Action)
    (instruction : Instruction) (key : Key) (resumed counted : Instant) :
    (((machine.presentedBy actions).received instruction key resumed).countDown
        counted).advance .next =
      (((machine.received instruction key resumed).countDown counted).advance .next).presentedBy
        actions := by
  unfold presentedBy
  split
  · cases machine with
    | mk memory stack index pc registers screen delay sound clock =>
      cases clock <;> rfl
  · rfl

/-- Receiving the key undoes the wait and nothing else. -/
theorem received_awaiting {machine : Machine} (free : machine.waiting = none)
    (instruction : Instruction) (key : Key) (now : Instant) :
    { machine with waiting := some instruction }.received instruction key now =
      (machine.setReg instruction.x key.toByte).resyncClock now := by
  simp only [received, setReg, resyncClock, free]

/-- Without a clock there is nothing to set, and counting down does not depend on the
time. -/
theorem countDown_perTick {machine : Machine} (timed : machine.clock = none)
    (resumed counted other : Instant) :
    (machine.resyncClock resumed).countDown counted = machine.countDown other := by
  have same : machine.resyncClock resumed = machine := by
    cases machine
    cases timed
    rfl
  simp only [same, countDown, timed]

/-- A clock that was restarted less than a period ago counts nothing down. -/
theorem countDown_resyncClock {machine : Machine} {clock : TimerClock}
    (timed : machine.clock = some clock) {resumed counted : Instant}
    (within : counted < resumed + clock.period) :
    (machine.resyncClock resumed).countDown counted =
      { machine with clock := some (clock.resync resumed) } := by
  simp [resyncClock, countDown, timed, clock.elapsed_resync within, elapse]

/-- A key wait of any length is invisible. Let a running machine stand at `FX0A`, let
any number of cycles follow that find no key held, at least one, with presents among
them, and then a cycle that finds one. Every cycle of the wait answers that the machine
waits, and meanwhile the machine differs from what it was only in that, and in its
touched cells if there was a present. The last cycle executes the instruction. With
timers that count instructions, the machine is then the one that a cycle with the same
keys would have made at once, whatever either of them reads from the clock. With timers
that follow a clock, and less than a period between the two readings of the last cycle,
as on a clock that stands still within it, the machine differs from that one in the
timers, which are as before the wait, and in the reference of the clock, which is the
first of these readings.

Proof: idle actions leave a waiting machine as it is, by induction. The cycles that end
the wait and that would have completed the instruction at once are both known in full,
and they differ in how they reach the clock only. -/
theorem key_wait_invisible (machine : Machine) (waits : List Action) (keyboard : Keyboard)
    (now instant : Readings) (running : machine.halted = false) (free : machine.waiting = none)
    (fetched : machine.fetch &&& 0xF0FF = 0xF00A) (idle : ∀ action ∈ waits, action.Idle)
    (cycled : waits.any Action.isCycle = true) (held : keyboard.held ≠ []) :
    let resumed := (machine.run waits).cycle keyboard now
    let direct := machine.cycle keyboard instant
    ∃ instruction,
      Instruction.decode machine.fetch = .ok instruction ∧
      (∀ moment ∈ machine.history waits, moment.Blocked) ∧
      machine.run waits = { machine with waiting := some instruction }.presentedBy waits ∧
      resumed.result = .ok (.executed instruction) ∧
      direct.result = .ok (.executed instruction) ∧
      (machine.clock = none → resumed.machine = direct.machine.presentedBy waits) ∧
      ∀ clock, machine.clock = some clock → now.counted < now.resumed + clock.period →
        resumed.machine =
          { direct.machine with
            delayTimer := machine.delayTimer
            soundTimer := machine.soundTimer
            clock := some { clock with reference := now.resumed } }.presentedBy waits := by
  intro resumed direct
  have listed : (⟨.awaitKey, 0xF0FF, 0xF00A, [.x]⟩ : Row) ∈ instructionTable := by decide
  obtain ⟨instruction, decoded, awaits⟩ :=
    (Instruction.decodes_iff listed machine.fetch).mpr fetched
  obtain ⟨reached, blocked⟩ := run_awaiting machine waits running free decoded awaits idle cycled
  obtain ⟨key, pressed⟩ : ∃ key, keyboard.lowest = some key :=
    Option.ne_none_iff_exists'.mp fun released => held (keyboard.lowest_eq_none_iff.mp released)
  have completes : machine.execute instruction keyboard =
      (machine.setReg instruction.x key.toByte, .ok .next) := by
    simp [execute, awaits, pressed]
  have atOnce : direct = _ := cycle_executed instant running free decoded completes (by decide)
  have later : resumed =
      ⟨.ok (.executed instruction),
        ((((machine.setReg instruction.x key.toByte).resyncClock now.resumed).countDown
          now.counted).advance .next).presentedBy waits,
        [.keyPressed key instruction.x]⟩ := by
    have stillRunning : (machine.run waits).halted = false := by
      rw [reached, presentedBy_halted]
      exact running
    have awaited : (machine.run waits).waiting = some instruction := by
      rw [reached, presentedBy_waiting]
    rw [← received_awaiting free, ← resumed_presentedBy, ← reached]
    exact cycle_resumed now stillRunning awaited pressed
  refine ⟨instruction, decoded, blocked, reached, ?_, ?_, ?_, ?_⟩
  · rw [later]
  · rw [atOnce]
  · intro timed
    have same : (machine.setReg instruction.x key.toByte).clock = none := timed
    rw [later, atOnce, countDown_perTick same now.resumed now.counted instant.counted]
  · intro clock timed within
    have same : (machine.setReg instruction.x key.toByte).clock = some clock := timed
    rw [later, atOnce, countDown_resyncClock same within]
    simp only [countDown, same]
    rfl

/-- A machine with clocked timers at the instruction `F30A`, its delay timer set. -/
def atKeyWait : Machine :=
  { boot { timers := .clocked 60 } 0 (Vector.replicate 8 0) with
    memory := Memory.initial.writeMany Memory.programStart [0xF3, 0x0A]
    delayTimer := 9 }

/-- Two cycles without a key and a present between them, a second and more apart. -/
def secondsOfWaiting : List Action :=
  [.cycle .idle (.still 1000000000), .present, .cycle .idle (.still 3000000000)]

/-- Four seconds in a key wait do not count the delay timer down, and neither does the
microsecond that the last cycle takes. -/
theorem key_wait_keeps_delay :
    (atKeyWait.halted = false ∧ atKeyWait.waiting = none ∧
      atKeyWait.fetch &&& 0xF0FF = 0xF00A ∧ (∀ action ∈ secondsOfWaiting, action.Idle) ∧
      secondsOfWaiting.any Action.isCycle = true ∧ (Keyboard.ofList Key.all).held ≠ []) ∧
    (((atKeyWait.run secondsOfWaiting).cycle (.ofList Key.all)
      ⟨4000000000, 4000001000⟩).machine.delayTimer = 9) := by
  have running : atKeyWait.halted = false := rfl
  have free : atKeyWait.waiting = none := rfl
  have fetched : atKeyWait.fetch &&& 0xF0FF = 0xF00A := by decide +kernel
  have idle : ∀ action ∈ secondsOfWaiting, action.Idle := by
    simp [secondsOfWaiting, Action.Idle, Keyboard.idle, Keyboard.ofList]
  have cycled : secondsOfWaiting.any Action.isCycle = true := rfl
  have held : (Keyboard.ofList Key.all).held ≠ [] := by decide
  refine ⟨⟨running, free, fetched, idle, cycled, held⟩, ?_⟩
  obtain ⟨instruction, -, -, -, -, -, -, clocked⟩ :=
    key_wait_invisible atKeyWait secondsOfWaiting (.ofList Key.all) ⟨4000000000, 4000001000⟩
      (.still 0) running free fetched idle cycled held
  rw [clocked (.start 60 0) rfl (by decide)]
  rfl

end Machine

end Chip8
