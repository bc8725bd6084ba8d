import Chip8.Keypad
import Chip8.Machine.State

/-!
# Executing an instruction

What each instruction does to the machine, and where the program continues. The
machine is returned beside a fault as well, with whatever the instruction had
written by then. Jumps, calls and returns write the program counter themselves; the
cycle moves it on from there, according to the reported flow.
-/

namespace Chip8

/-- Where a program continues after an instruction. -/
inductive Flow where
  /-- At the next instruction. -/
  | next
  /-- At the instruction after the next. -/
  | skip
  /-- Where the program counter already points. -/
  | jump
  /-- Nowhere, until a key is held. -/
  | block
  deriving DecidableEq, Repr

/-- Skip the next instruction when a condition holds. -/
def Flow.skipIf (condition : Bool) : Flow :=
  if condition then .skip else .next

/-- A condition as a flag value. -/
def flagOf (condition : Bool) : UInt8 :=
  if condition then 1 else 0

namespace Settings

/-- Whether a difference sets the flag: the minuend exceeds the subtrahend, or with
the switch on is at least as large. -/
def noBorrow (settings : Settings) (minuend subtrahend : UInt8) : Bool :=
  if settings.borrowFlagOnEqual then subtrahend ≤ minuend else subtrahend < minuend

/-- The value that a shift reads. -/
def shiftSource (settings : Settings) (vx vy : UInt8) : UInt8 :=
  if settings.shiftUsesVy then vy else vx

/-- The number of registers that `FX55` and `FX65` move. -/
def transferCount (settings : Settings) (x : Register) : Nat :=
  if settings.loadStoreInclusive then x.val + 1 else x.val

/-- The index register after `count` bytes were moved. -/
def indexAfter (settings : Settings) (index : UInt16) (count : Nat) : UInt16 :=
  if settings.loadStoreIncrementsIndex then index + UInt16.ofNat count else index

end Settings

namespace Machine

/-- Draw the sprite that the index register points at. The flag reports a collision
and is set last, so the flag register may also give a coordinate. -/
def draw (machine : Machine) (x y : Register) (height : Nat) : Machine :=
  let rows := machine.memory.readMany machine.index.toNat height
  let drawing := machine.screen.drawSprite (machine.reg x) (machine.reg y) rows
  { machine with screen := drawing.screen }.setReg flag (flagOf drawing.collision)

/-- The decimal digits of a byte: hundreds, tens and ones. -/
def decimalDigits (value : UInt8) : List UInt8 :=
  [value / 100, value / 10 % 10, value % 10]

/-- Store the registers below a count from the index register on. -/
def storeRegisters (machine : Machine) (count : Nat) : Machine :=
  { machine with
    memory := machine.memory.writeMany machine.index.toNat (machine.registers.toList.take count)
    index := machine.settings.indexAfter machine.index count }

/-- Load the registers below a count from the index register on. -/
def loadRegisters (machine : Machine) (count : Nat) : Machine :=
  { machine with
    registers := Vector.ofFn fun register =>
      if register.val < count then machine.memory.read (machine.index.toNat + register.val)
      else machine.reg register
    index := machine.settings.indexAfter machine.index count }

/-- Execute one instruction: the machine as the instruction leaves it, and where the
program continues or why it cannot. -/
def execute (machine : Machine) (instruction : Instruction) (keyboard : Keyboard) :
    Machine × Except Fault Flow :=
  let x := instruction.x
  let vx := machine.reg x
  let vy := machine.reg instruction.y
  match instruction.command with
  | .clearScreen => ({ machine with screen := machine.screen.clear }, .ok .next)
  | .returnFromCall =>
    match machine.stack.pop with
    | (stack, .error fault) => ({ machine with stack := stack }, .error fault)
    -- The stored address is that of the call itself, and `next` leads past it.
    | (stack, .ok caller) => ({ machine with stack := stack, pc := caller }, .ok .next)
  | .jump => ({ machine with pc := instruction.address }, .ok .jump)
  | .call =>
    match machine.stack.push machine.pc with
    | (stack, .error fault) => ({ machine with stack := stack }, .error fault)
    | (stack, .ok ()) =>
      ({ machine with stack := stack, pc := instruction.address }, .ok .jump)
  | .skipIfByte => (machine, .ok (.skipIf (vx == instruction.byte)))
  | .skipUnlessByte => (machine, .ok (.skipIf (vx != instruction.byte)))
  | .skipIfSame => (machine, .ok (.skipIf (vx == vy)))
  | .setByte => (machine.setReg x instruction.byte, .ok .next)
  | .addByte => (machine.setReg x (vx + instruction.byte), .ok .next)
  | .copy => (machine.setReg x vy, .ok .next)
  | .bitOr => (machine.setReg x (vx ||| vy), .ok .next)
  | .bitAnd => (machine.setReg x (vx &&& vy), .ok .next)
  | .bitXor => (machine.setReg x (vx ^^^ vy), .ok .next)
  | .add =>
    (machine.setWithFlag x (vx + vy) (flagOf (256 ≤ vx.toNat + vy.toNat)), .ok .next)
  | .subtract =>
    (machine.setWithFlag x (vx - vy) (flagOf (machine.settings.noBorrow vx vy)), .ok .next)
  | .shiftRight =>
    let source := machine.settings.shiftSource vx vy
    (machine.setWithFlag x (source >>> 1) (source &&& 1), .ok .next)
  | .subtractFrom =>
    (machine.setWithFlag x (vy - vx) (flagOf (machine.settings.noBorrow vy vx)), .ok .next)
  | .shiftLeft =>
    let source := machine.settings.shiftSource vx vy
    (machine.setWithFlag x (source <<< 1) (source >>> 7), .ok .next)
  | .skipUnlessSame => (machine, .ok (.skipIf (vx != vy)))
  | .setIndex => ({ machine with index := instruction.address }, .ok .next)
  | .jumpOffset =>
    ({ machine with pc := instruction.address + (machine.reg v0).toUInt16 }, .ok .jump)
  | .random =>
    let (byte, rest) := machine.random.nextByte
    ({ machine with random := rest }.setReg x (byte &&& instruction.byte), .ok .next)
  | .draw => (machine.draw x instruction.y instruction.height, .ok .next)
  | .skipIfKey =>
    match Key.ofByte vx with
    | .error fault => (machine, .error fault)
    | .ok key => (machine, .ok (.skipIf (keyboard.isDown key)))
  | .skipUnlessKey =>
    match Key.ofByte vx with
    | .error fault => (machine, .error fault)
    | .ok key => (machine, .ok (.skipIf (!keyboard.isDown key)))
  | .readDelay => (machine.setReg x machine.delayTimer, .ok .next)
  | .awaitKey =>
    match keyboard.lowest with
    | some key => (machine.setReg x key.toByte, .ok .next)
    | none => (machine, .ok .block)
  | .setDelay => ({ machine with delayTimer := vx }, .ok .next)
  | .setSound => ({ machine with soundTimer := vx }, .ok .next)
  | .addIndex => ({ machine with index := machine.index + vx.toUInt16 }, .ok .next)
  | .setGlyph =>
    if vx.toNat < 16 then
      ({ machine with index := UInt16.ofNat (Font.address vx.toNat) }, .ok .next)
    else (machine, .error (.noGlyph vx))
  | .storeDecimal =>
    ({ machine with
      memory := machine.memory.writeMany machine.index.toNat (decimalDigits vx) }, .ok .next)
  | .storeRegisters =>
    (machine.storeRegisters (machine.settings.transferCount x), .ok .next)
  | .loadRegisters =>
    (machine.loadRegisters (machine.settings.transferCount x), .ok .next)

end Machine

end Chip8
