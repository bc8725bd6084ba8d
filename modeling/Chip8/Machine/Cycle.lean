import Chip8.Error
import Chip8.Machine.Execute

/-!
# Cycles

One call of `cycle` executes one instruction: the opcode at the program counter is
fetched, decoded and executed, the timers count down and the program counter moves
on. A fault halts the machine as the instruction left it. An instruction that waits
for a key stays where it is until a cycle finds one held; the time spent waiting does
not count for timers that follow a clock.

Loading, pausing and presenting are the other things a host does to a machine.
-/

namespace Chip8

/-- The clock as one cycle reads it. Every cycle that counts the timers down reads it then;
the cycle that ends a wait has read it once before. -/
structure Readings where
  /-- When the clock is restarted after a wait. -/
  resumed : Instant
  /-- When the timers are counted down. -/
  counted : Instant
  deriving DecidableEq, Repr

/-- A clock that stands still within the cycle. -/
def Readings.still (now : Instant) : Readings :=
  ⟨now, now⟩

/-- What a cycle did. -/
inductive Step where
  /-- An instruction was completed. -/
  | executed (instruction : Instruction)
  /-- An instruction waits for a key. -/
  | waitingForKey
  /-- Nothing: the machine has faulted or was paused. -/
  | halted
  deriving DecidableEq, Repr

/-- The outcome of a cycle: its result, the machine after it and what was logged. -/
structure Transition where
  result : Except Fault Step
  machine : Machine
  events : List Event

namespace Machine

/-- Move the program counter on from where the instruction left it. -/
def advance (machine : Machine) : Flow → Machine
  | .next => { machine with pc := machine.pc + 2 }
  | .skip => { machine with pc := machine.pc + 4 }
  | .jump | .block => machine

/-- Restart the count of the clock, if there is one. -/
def resyncClock (machine : Machine) (now : Instant) : Machine :=
  { machine with clock := machine.clock.map (·.resync now) }

/-- A cycle of a machine that waits for a key: with a key held, the waiting
instruction is completed. -/
def resume (machine : Machine) (instruction : Instruction) (keyboard : Keyboard)
    (now : Readings) : Transition :=
  match keyboard.lowest with
  | none => ⟨.ok .waitingForKey, machine, []⟩
  | some key =>
    let received := { machine.setReg instruction.x key.toByte with waiting := none }
    { result := .ok (.executed instruction)
      machine := ((received.resyncClock now.resumed).countDown now.counted).advance .next
      events := [.keyPressed key instruction.x] }

/-- Execute the instruction of an opcode. An unknown opcode changes nothing. -/
def attempt (machine : Machine) (opcode : UInt16) (keyboard : Keyboard) :
    Machine × Except Fault (Instruction × Flow) :=
  match Instruction.decode opcode with
  | .error fault => (machine, .error fault)
  | .ok instruction =>
    let (after, outcome) := machine.execute instruction keyboard
    (after, outcome.map fun flow => (instruction, flow))

/-- A cycle of a running machine. -/
def perform (machine : Machine) (keyboard : Keyboard) (now : Readings) : Transition :=
  let opcode := machine.fetch
  match machine.attempt opcode keyboard with
  | (after, .error fault) =>
    { result := .error fault
      machine := { after with halted := true }
      events := [.halting fault machine.pc opcode] }
  | (after, .ok (instruction, flow)) =>
    let executed := Event.executed machine.pc opcode instruction
    if flow = .block then
      { result := .ok .waitingForKey
        machine := { after with waiting := some instruction }
        events := [executed, .waitingForKey instruction.x] }
    else
      { result := .ok (.executed instruction)
        machine := (after.countDown now.counted).advance flow
        events := [executed] }

/-- One cycle, under the keys held and the readings of the clock. -/
def cycle (machine : Machine) (keyboard : Keyboard) (now : Readings) : Transition :=
  if machine.halted then ⟨.ok .halted, machine, []⟩
  else
    match machine.waiting with
    | some instruction => machine.resume instruction keyboard now
    | none => machine.perform keyboard now

/-- Copy a program into memory. A program that does not fit is refused; a shorter
one leaves the bytes behind it as they were. -/
def load (machine : Machine) (program : List UInt8) : Machine × Except Error Event :=
  if program.length ≤ Memory.programSize then
    ({ machine with memory := machine.memory.writeMany Memory.programStart program },
      .ok (.loaded program.length))
  else (machine, .error (.programTooLarge program.length Memory.programSize))

/-- Load the program that a file holds. -/
def loadFile (machine : Machine) (file : FileContent) : Machine × Except Error Event :=
  match file with
  | .error cause => (machine, .error (.unreadable cause))
  | .ok program => machine.load program

/-- Halt the machine from outside. Only the first halt is logged. -/
def pause (machine : Machine) : Machine × List Event :=
  ({ machine with halted := true }, if machine.halted then [] else [.paused machine.pc])

/-- Hand out the screen with its touched cells and forget which they were. -/
def present (machine : Machine) : Screen × Machine :=
  (machine.screen, { machine with screen := machine.screen.clearDirty })

end Machine

end Chip8
