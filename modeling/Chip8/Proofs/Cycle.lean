import Chip8.Proofs.Execution
import Chip8.Proofs.Run

/-!
# What one cycle can do

A cycle takes one of seven courses. A halted machine and one that waits with no key
held stay as they are; an unknown opcode and a refused instruction halt the machine;
a key wait that finds no key blocks; everything else completes an instruction, the
waiting one or the one at the program counter. Laws about cycles go through these
courses and through the laws of the single instruction. That a refused instruction
has changed nothing is one of the latter.

An invariant of all runs follows: a machine only ever waits on a decoded key wait.
-/

namespace Chip8.Machine

/-- Everything but the timers, their clock and the program counter is the same. -/
structure SameCore (before after : Machine) : Prop where
  memory : after.memory = before.memory
  stack : after.stack = before.stack
  index : after.index = before.index
  registers : after.registers = before.registers
  screen : after.screen = before.screen
  waiting : after.waiting = before.waiting
  halted : after.halted = before.halted
  random : after.random = before.random
  settings : after.settings = before.settings

/-- What a cycle does once its instruction is executed, counting the timers down and
moving the program counter, reaches no other part. -/
theorem sameCore_finish (machine : Machine) (now : Instant) (flow : Flow) :
    SameCore machine ((machine.countDown now).advance flow) := by
  unfold countDown
  cases machine.clock <;> cases flow <;> exact ⟨rfl, rfl, rfl, rfl, rfl, rfl, rfl, rfl, rfl⟩

/-- Counting the timers down has no part in where the program counter moves. -/
theorem pc_finish (machine : Machine) (now : Instant) (flow : Flow) :
    ((machine.countDown now).advance flow).pc = (machine.advance flow).pc := by
  unfold countDown
  cases machine.clock <;> cases flow <;> rfl

/-- A machine that has received the key its instruction waited for, with its clock
restarted and ready to count its timers down. -/
def received (machine : Machine) (instruction : Instruction) (key : Key) (now : Instant) :
    Machine :=
  { machine.setReg instruction.x key.toByte with waiting := none }.resyncClock now

section Equations

variable {machine after : Machine} {instruction : Instruction} {keyboard : Keyboard}
  {key : Key} {flow : Flow} {fault : Fault} (now : Readings)

/-- A halted machine stays as it is. -/
theorem cycle_halted (stopped : machine.halted = true) :
    machine.cycle keyboard now = ⟨.ok .halted, machine, []⟩ := by
  simp [cycle, stopped]

/-- A waiting machine stays as it is while no key is held. -/
theorem cycle_waiting (running : machine.halted = false)
    (awaited : machine.waiting = some instruction) (released : keyboard.lowest = none) :
    machine.cycle keyboard now = ⟨.ok .waitingForKey, machine, []⟩ := by
  simp [cycle, running, awaited, resume, released]

/-- A held key completes the waiting instruction. -/
theorem cycle_resumed (running : machine.halted = false)
    (awaited : machine.waiting = some instruction) (pressed : keyboard.lowest = some key) :
    machine.cycle keyboard now =
      ⟨.ok (.executed instruction),
        ((machine.received instruction key now.resumed).countDown now.counted).advance .next,
        [.keyPressed key instruction.x]⟩ := by
  simp [cycle, running, awaited, resume, pressed, received]

/-- An unknown opcode halts the machine. -/
theorem cycle_unknown (running : machine.halted = false) (free : machine.waiting = none)
    (undecoded : Instruction.decode machine.fetch = .error fault) :
    machine.cycle keyboard now =
      ⟨.error fault, { machine with halted := true },
        [.halting fault machine.pc machine.fetch]⟩ := by
  simp [cycle, running, free, perform, attempt, undecoded]

/-- A refused instruction halts the machine. It has written nothing by then, so the machine that
the cycle halts is the one before it. -/
theorem cycle_refused (running : machine.halted = false) (free : machine.waiting = none)
    (decoded : Instruction.decode machine.fetch = .ok instruction)
    (refused : machine.Refused instruction fault) :
    machine.cycle keyboard now =
      ⟨.error fault, { machine with halted := true },
        [.halting fault machine.pc machine.fetch]⟩ := by
  have unchanged : machine.execute instruction keyboard = (machine, .error fault) :=
    execute_eq_error_iff.mpr ⟨refused, rfl⟩
  simp [cycle, running, free, perform, attempt, decoded, unchanged, Except.map]

/-- A key wait that finds no key held makes the machine wait. -/
theorem cycle_blocked (running : machine.halted = false) (free : machine.waiting = none)
    (decoded : Instruction.decode machine.fetch = .ok instruction)
    (awaits : instruction.command = .awaitKey) (released : keyboard.lowest = none) :
    machine.cycle keyboard now =
      ⟨.ok .waitingForKey, { machine with waiting := some instruction },
        [.executed machine.pc machine.fetch instruction, .waitingForKey instruction.x]⟩ := by
  simp [cycle, running, free, perform, attempt, decoded, execute, awaits, released, Except.map]

/-- Any other instruction is completed. -/
theorem cycle_executed (running : machine.halted = false) (free : machine.waiting = none)
    (decoded : Instruction.decode machine.fetch = .ok instruction)
    (done : machine.execute instruction keyboard = (after, .ok flow)) (moves : flow ≠ .block) :
    machine.cycle keyboard now =
      ⟨.ok (.executed instruction), (after.countDown now.counted).advance flow,
        [.executed machine.pc machine.fetch instruction]⟩ := by
  simp [cycle, running, free, perform, attempt, decoded, done, moves, Except.map]

end Equations

/-- The courses of a cycle. -/
inductive Course (machine : Machine) (keyboard : Keyboard) (now : Readings) :
    Transition → Prop where
  | halted (stopped : machine.halted = true) :
      Course machine keyboard now ⟨.ok .halted, machine, []⟩
  | waiting (instruction : Instruction) (running : machine.halted = false)
      (awaited : machine.waiting = some instruction) (released : keyboard.lowest = none) :
      Course machine keyboard now ⟨.ok .waitingForKey, machine, []⟩
  | resumed (instruction : Instruction) (key : Key) (running : machine.halted = false)
      (awaited : machine.waiting = some instruction) (pressed : keyboard.lowest = some key) :
      Course machine keyboard now
        ⟨.ok (.executed instruction),
          ((machine.received instruction key now.resumed).countDown now.counted).advance .next,
          [.keyPressed key instruction.x]⟩
  | unknown (fault : Fault) (running : machine.halted = false)
      (free : machine.waiting = none)
      (undecoded : Instruction.decode machine.fetch = .error fault) :
      Course machine keyboard now
        ⟨.error fault, { machine with halted := true },
          [.halting fault machine.pc machine.fetch]⟩
  | refused (instruction : Instruction) (fault : Fault) (running : machine.halted = false)
      (free : machine.waiting = none)
      (decoded : Instruction.decode machine.fetch = .ok instruction)
      (refused : machine.Refused instruction fault) :
      Course machine keyboard now
        ⟨.error fault, { machine with halted := true },
          [.halting fault machine.pc machine.fetch]⟩
  | blocked (instruction : Instruction) (running : machine.halted = false)
      (free : machine.waiting = none)
      (decoded : Instruction.decode machine.fetch = .ok instruction)
      (awaits : instruction.command = .awaitKey) (released : keyboard.lowest = none) :
      Course machine keyboard now
        ⟨.ok .waitingForKey, { machine with waiting := some instruction },
          [.executed machine.pc machine.fetch instruction, .waitingForKey instruction.x]⟩
  | executed (instruction : Instruction) (after : Machine) (flow : Flow)
      (running : machine.halted = false) (free : machine.waiting = none)
      (decoded : Instruction.decode machine.fetch = .ok instruction)
      (done : machine.execute instruction keyboard = (after, .ok flow))
      (moves : flow ≠ .block) :
      Course machine keyboard now
        ⟨.ok (.executed instruction), (after.countDown now.counted).advance flow,
          [.executed machine.pc machine.fetch instruction]⟩

/-- Every cycle takes one of the courses. -/
theorem cycle_course (machine : Machine) (keyboard : Keyboard) (now : Readings) :
    Course machine keyboard now (machine.cycle keyboard now) := by
  cases running : machine.halted with
  | true => exact cycle_halted now running ▸ .halted running
  | false =>
    cases free : machine.waiting with
    | some instruction =>
      cases lowest : keyboard.lowest with
      | none =>
        exact cycle_waiting now running free lowest ▸ .waiting instruction running free lowest
      | some key =>
        exact cycle_resumed now running free lowest ▸ .resumed instruction key running free lowest
    | none =>
      cases decoded : Instruction.decode machine.fetch with
      | error fault =>
        exact cycle_unknown now running free decoded ▸ .unknown fault running free decoded
      | ok instruction =>
        rcases done : machine.execute instruction keyboard with ⟨after, fault | flow⟩
        · obtain ⟨refused, -⟩ := execute_eq_error_iff.mp done
          exact cycle_refused now running free decoded refused ▸
            .refused instruction fault running free decoded refused
        · by_cases block : flow = .block
          · subst flow
            obtain ⟨awaits, released, -⟩ := execute_block done
            exact cycle_blocked now running free decoded awaits released ▸
              .blocked instruction running free decoded awaits released
          · exact cycle_executed now running free decoded done block ▸
              .executed instruction after flow running free decoded done block

/-- A cycle that completes an instruction leaves the machine running and waiting for nothing:
a resumed instruction has ended its wait, and any other was executed on a machine that did not
wait. -/
theorem Course.ready {machine : Machine} {keyboard : Keyboard} {now : Readings}
    {transition : Transition} (course : Course machine keyboard now transition)
    (instruction : Instruction) (completed : transition.result = .ok (.executed instruction)) :
    transition.machine.halted = false ∧ transition.machine.waiting = none := by
  cases course with
  | halted | waiting | unknown | refused | blocked => cases completed
  | resumed awaited key running =>
    have core := sameCore_finish (machine.received awaited key now.resumed) now.counted .next
    exact ⟨core.halted.trans running, core.waiting⟩
  | executed fetched after flow running free decoded done =>
    have core := sameCore_finish after now.counted flow
    have kept := execute_kept done
    exact ⟨core.halted.trans (kept.halted.trans running),
      core.waiting.trans (kept.waiting.trans free)⟩

/-- A cycle in a run is one of the courses, with its result as the answer. -/
theorem act_course (machine : Machine) (keyboard : Keyboard) (now : Readings) :
    ∃ transition, Course machine keyboard now transition ∧
      machine.act (.cycle keyboard now) = ⟨machine, .cycle keyboard now,
        .cycled transition.result, transition.machine, transition.events⟩ :=
  ⟨_, cycle_course machine keyboard now, rfl⟩

/-- The instruction a machine waits on, if there is one, is a key wait. -/
def WaitsForKey (machine : Machine) : Prop :=
  ∀ instruction, machine.waiting = some instruction → instruction.command = .awaitKey

/-- Only a blocking key wait makes a machine wait; every completed instruction leaves
it free. -/
theorem act_waitsForKey (machine : Machine) (action : Action) (sound : machine.WaitsForKey) :
    (machine.act action).after.WaitsForKey := by
  cases action with
  | cycle keyboard now =>
    rw [after_cycle]
    generalize outcome : machine.cycle keyboard now = transition
    have course := outcome ▸ cycle_course machine keyboard now
    have ready := course.ready
    cases course with
    | halted | waiting | unknown | refused => exact sound
    | blocked instruction running free decoded awaits released =>
      intro other waits
      exact Option.some.inj waits ▸ awaits
    | resumed instruction | executed instruction =>
      intro other waits
      obtain ⟨-, nothing⟩ := ready instruction rfl
      cases nothing.symm.trans waits
  | load program => rw [after_load]; exact sound
  | pause => exact sound
  | present => exact sound

/-- In every run from its construction a machine waits on key waits only. -/
theorem run_waitsForKey (settings : Settings) (now : Instant) (entropy : Random.StreamKey)
    (actions : List Action) : ((boot settings now entropy).run actions).WaitsForKey := by
  apply run_invariant act_waitsForKey
  intro instruction waits
  cases waits

end Chip8.Machine
