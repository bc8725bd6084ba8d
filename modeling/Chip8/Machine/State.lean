import Chip8.CallStack
import Chip8.Instruction.Decode
import Chip8.Memory
import Chip8.Random.Stream
import Chip8.Screen
import Chip8.Settings.Basic
import Chip8.TimerClock

/-!
# The state of a machine

Everything a machine keeps between two cycles. The program counter and the index
register are 16 bits wide although memory has only 4096 bytes; both wrap around at
2¹⁶, and every access to memory takes its address modulo the size of memory.
-/

namespace Chip8

/-- A machine between two cycles. -/
structure Machine where
  memory : Memory
  stack : CallStack
  /-- The index register I. -/
  index : UInt16
  pc : UInt16
  registers : Vector UInt8 16
  screen : Screen
  delayTimer : UInt8
  soundTimer : UInt8
  /-- Present when the timers follow real time. -/
  clock : Option TimerClock
  /-- The instruction that waits for a key, if any. -/
  waiting : Option Instruction
  halted : Bool
  random : Random.Stream
  settings : Settings
  deriving DecidableEq, Repr

namespace Machine

/-- The register V0. -/
def v0 : Register := ⟨0, Nat.zero_lt_succ 15⟩

/-- The register VF, which reports carries, borrows, lost bits and collisions. -/
def flag : Register := ⟨15, by decide⟩

/-- A machine before its first cycle. Without a seed its random stream has the
given key. -/
def boot (settings : Settings) (now : Instant) (entropy : Random.StreamKey) : Machine :=
  { memory := .initial
    stack := .empty
    index := 0
    pc := UInt16.ofNat Memory.programStart
    registers := Vector.replicate 16 0
    screen := .blank
    delayTimer := 0
    soundTimer := 0
    clock :=
      match settings.timers with
      | .perTick => none
      | .clocked hz => some (.start hz now)
    waiting := none
    halted := false
    random :=
      match settings.seed with
      | some seed => .ofSeed seed
      | none => .ofKey entropy
    settings := settings }

/-- The value of a register. -/
def reg (machine : Machine) (register : Register) : UInt8 :=
  machine.registers.get register

/-- Set a register. -/
def setReg (machine : Machine) (register : Register) (value : UInt8) : Machine :=
  { machine with registers := machine.registers.set register.val value }

/-- Set a register and then the flag: a result written to the flag register itself
is replaced by the flag. -/
def setWithFlag (machine : Machine) (register : Register) (value flagValue : UInt8) : Machine :=
  (machine.setReg register value).setReg flag flagValue

/-- The opcode at the program counter. -/
def fetch (machine : Machine) : UInt16 :=
  machine.memory.word machine.pc.toNat

/-- Count both timers down by a number of periods, stopping at zero. -/
def elapse (machine : Machine) (periods : Nat) : Machine :=
  { machine with
    delayTimer := UInt8.ofNat (machine.delayTimer.toNat - periods)
    soundTimer := UInt8.ofNat (machine.soundTimer.toNat - periods) }

/-- Count the timers down at the end of an executed instruction: by one, or by the
periods that have passed on the clock. -/
def countDown (machine : Machine) (now : Instant) : Machine :=
  match machine.clock with
  | none => machine.elapse 1
  | some clock =>
    let (periods, clock) := clock.elapsed now
    { machine.elapse (min periods 255) with clock := some clock }

/-- Whether a beep is due. -/
def soundActive (machine : Machine) : Bool :=
  0 < machine.soundTimer

/-- The screen in white on black. -/
def pixels (machine : Machine) : List UInt32 :=
  machine.screen.toPixels 0xFFFFFF 0

end Machine

end Chip8
