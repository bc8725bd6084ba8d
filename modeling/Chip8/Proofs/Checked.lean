import Chip8.Machine.Cycle

/-!
# A cycle with every access checked

A machine finds registers, return addresses, bytes and cells by numbers that cannot miss
their table, because they are wrapped first or carry a proof. Here is the same cycle with
plain numbers instead. Operands are used as the instruction holds them, every access asks
whether its index is inside the table, every sum that makes an index asks whether it fits
a machine word, and the product that makes a glyph address whether it fits 16 bits. Where
an answer is no, the cycle has no outcome at all, as distinct from a fault.

Nothing runs this cycle. It says where an index could be out of range or a number too
large, so that it can be shown that none ever is.
-/

namespace Chip8.Checked

/-- Indices are computed in words of at least 32 bits. -/
def wordValues : Nat := 0x100000000

/-- The sum of two indices, if it is an index. -/
def sum (first second : Nat) : Option Nat :=
  if first + second < wordValues then some (first + second) else none

/-- The product of two numbers, if it fits 16 bits. -/
def product (first second : Nat) : Option UInt16 :=
  if first * second < 0x10000 then some (UInt16.ofNat (first * second)) else none

section Tables

variable {α : Type} {size : Nat}

/-- The entry at an index, if the table has one there. -/
def get (table : Vector α size) (index : Nat) : Option α :=
  table[index]?

/-- Replace the entry at an index, if the table has one there. -/
def set (table : Vector α size) (index : Nat) (value : α) : Option (Vector α size) :=
  if inside : index < size then some (table.set index value) else none

/-- The entries before an index, if the table has as many. -/
def slice (table : Vector α size) (stop : Nat) : Option (List α) :=
  if stop ≤ size then some (table.toList.take stop) else none

end Tables

section Memory

variable {size : Nat}

/-- Read the byte at a wrapped address, with the index checked. -/
def read (memory : Memory) (address : Nat) : Option UInt8 :=
  get memory.bytes (address % Memory.size)

/-- Write the byte at a wrapped address, with the index checked. -/
def write (memory : Memory) (address : Nat) (value : UInt8) : Option Memory := do
  let bytes ← set memory.bytes (address % Memory.size) value
  return ⟨bytes⟩

/-- The opcode at the program counter. -/
def fetch (machine : Machine) : Option UInt16 := do
  let next ← sum machine.pc.toNat 1
  let high ← read machine.memory machine.pc.toNat
  let low ← read machine.memory next
  return high.toUInt16 <<< 8 ||| low.toUInt16

/-- Copy bytes from an address on into the first entries of a table. -/
def copyIn (memory : Memory) (base count : Nat) (table : Vector UInt8 size) :
    Option (Vector UInt8 size) :=
  List.foldlM
    (fun table offset => do
      let address ← sum base offset
      let value ← read memory address
      set table offset value)
    table (List.range count)

/-- Copy the first entries of a table into memory from an address on. -/
def copyOut (table : Vector UInt8 size) (base count : Nat) (memory : Memory) : Option Memory :=
  List.foldlM
    (fun memory offset => do
      let address ← sum base offset
      let value ← get table offset
      write memory address value)
    memory (List.range count)

end Memory

section Stack

/-- Store a return address. -/
def push (stack : CallStack) (address : UInt16) : Option (CallStack × Except Fault Unit) :=
  if CallStack.capacity ≤ stack.depth then some (stack, .error .stackOverflow)
  else do
    let slots ← set stack.slots stack.depth address
    let depth ← sum stack.depth 1
    if bound : depth ≤ 16 then return (⟨slots, depth, bound⟩, .ok ()) else none

/-- Take a return address. -/
def pop (stack : CallStack) : Option (CallStack × Except Fault UInt16) :=
  match stack.depth with
  | 0 => some (stack, .error .stackUnderflow)
  | rest + 1 => do
    let caller ← get stack.slots rest
    if bound : rest ≤ 16 then return (⟨stack.slots, rest, bound⟩, .ok caller) else none

end Stack

section Screen

/-- Toggle the cell of a coordinate pair after wrapping. -/
def toggle (drawing : Drawing) (x y : Nat) : Option Drawing := do
  let index := y % Screen.height * Screen.width + x % Screen.width
  let lit ← get drawing.screen.pixels index
  let pixels ← set drawing.screen.pixels index (!lit)
  let dirty ← set drawing.screen.dirty index true
  return ⟨drawing.collision || lit, ⟨pixels, dirty⟩⟩

/-- Toggle the cells of one sprite row, from the left. -/
def drawRow (x line : Nat) (row : UInt8) (drawing : Drawing) : Option Drawing :=
  List.foldlM
    (fun drawing column => do
      let column ← sum x column
      toggle drawing column line)
    drawing (Screen.litColumns row)

/-- Draw sprite rows, the first of them `offset` lines below `y`. -/
def drawRows (x y : Nat) : Nat → List UInt8 → Drawing → Option Drawing
  | _, [], drawing => some drawing
  | offset, row :: rows, drawing => do
    let line ← sum y offset
    let drawn ← drawRow x line row drawing
    drawRows x y (offset + 1) rows drawn

end Screen

section Instructions

/-- The most rows a sprite can have. -/
def maxHeight : Nat := 15

/-- A register by its plain number. -/
def reg (machine : Machine) (register : Nat) : Option UInt8 :=
  get machine.registers register

/-- Set a register by its plain number. -/
def setReg (machine : Machine) (register : Nat) (value : UInt8) : Option Machine := do
  let registers ← set machine.registers register value
  return { machine with registers := registers }

/-- Draw the sprite that the index register points at. Its rows are first copied into a
buffer for the highest sprite. -/
def draw (machine : Machine) (x y height : Nat) : Option Machine := do
  let buffer ← copyIn machine.memory machine.index.toNat (min height maxHeight)
    (Vector.replicate maxHeight 0)
  let vx ← reg machine x
  let vy ← reg machine y
  let rows ← slice buffer height
  let drawing ← drawRows vx.toNat vy.toNat 0 rows ⟨false, machine.screen⟩
  setReg { machine with screen := drawing.screen } 15 (flagOf drawing.collision)

/-- The number of registers that `FX55` and `FX65` move. -/
def transferCount (settings : Settings) (x : Nat) : Option Nat :=
  if settings.loadStoreInclusive then sum x 1 else some x

/-- An outcome, or none if an access or a sum was out of range. -/
abbrev Outcome := Option (Machine × Except Fault Flow)

/-- Continue with the next instruction. -/
def next (machine : Machine) : Outcome :=
  some (machine, .ok .next)

/-- Set a register and go on. -/
def assign (machine : Machine) (register : Nat) (value : UInt8) : Outcome := do
  let after ← setReg machine register value
  next after

/-- Compute a register from itself and another. -/
def combine (machine : Machine) (x y : Nat) (operation : UInt8 → UInt8 → UInt8) : Outcome := do
  let vx ← reg machine x
  let vy ← reg machine y
  assign machine x (operation vx vy)

/-- Compute a register and the flag from itself and another. -/
def combineWithFlag (machine : Machine) (x y : Nat)
    (operation : UInt8 → UInt8 → UInt8 × UInt8) : Outcome := do
  let vx ← reg machine x
  let vy ← reg machine y
  let (value, flagValue) := operation vx vy
  let after ← setReg machine x value
  assign after 15 flagValue

/-- Continue behind the next instruction if a condition on the first register holds. -/
def skipOn (machine : Machine) (x : Nat) (condition : UInt8 → Bool) : Outcome := do
  let vx ← reg machine x
  return (machine, .ok (.skipIf (condition vx)))

/-- Continue behind the next instruction if a condition on two registers holds. -/
def skipOnBoth (machine : Machine) (x y : Nat) (condition : UInt8 → UInt8 → Bool) : Outcome := do
  let vx ← reg machine x
  let vy ← reg machine y
  return (machine, .ok (.skipIf (condition vx vy)))

/-- Continue behind the next instruction if the key named by a register is as asked. -/
def skipOnKey (machine : Machine) (x : Nat) (condition : Key → Bool) : Outcome := do
  let vx ← reg machine x
  match Key.ofByte vx with
  | .error fault => return (machine, .error fault)
  | .ok key => return (machine, .ok (.skipIf (condition key)))

/-- Execute one instruction. -/
def execute (machine : Machine) (instruction : Instruction) (keyboard : Keyboard) : Outcome :=
  let x := instruction.first.toNat
  let y := instruction.second.toNat
  let base := machine.index.toNat
  let settings := machine.settings
  match instruction.command with
  | .clearScreen => next { machine with screen := machine.screen.clear }
  | .returnFromCall => do
    match ← pop machine.stack with
    | (stack, .error fault) => return ({ machine with stack := stack }, .error fault)
    | (stack, .ok caller) => return ({ machine with stack := stack, pc := caller }, .ok .next)
  | .jump => some ({ machine with pc := instruction.address }, .ok .jump)
  | .call => do
    match ← push machine.stack machine.pc with
    | (stack, .error fault) => return ({ machine with stack := stack }, .error fault)
    | (stack, .ok ()) =>
      return ({ machine with stack := stack, pc := instruction.address }, .ok .jump)
  | .skipIfByte => skipOn machine x fun vx => vx == instruction.byte
  | .skipUnlessByte => skipOn machine x fun vx => vx != instruction.byte
  | .skipIfSame => skipOnBoth machine x y fun vx vy => vx == vy
  | .setByte => assign machine x instruction.byte
  | .addByte => do
    let vx ← reg machine x
    assign machine x (vx + instruction.byte)
  | .copy => combine machine x y fun _ vy => vy
  | .bitOr => combine machine x y fun vx vy => vx ||| vy
  | .bitAnd => combine machine x y fun vx vy => vx &&& vy
  | .bitXor => combine machine x y fun vx vy => vx ^^^ vy
  | .add =>
    combineWithFlag machine x y fun vx vy =>
      (vx + vy, flagOf (256 ≤ vx.toNat + vy.toNat))
  | .subtract =>
    combineWithFlag machine x y fun vx vy => (vx - vy, flagOf (settings.noBorrow vx vy))
  | .shiftRight =>
    combineWithFlag machine x y fun vx vy =>
      (settings.shiftSource vx vy >>> 1, settings.shiftSource vx vy &&& 1)
  | .subtractFrom =>
    combineWithFlag machine x y fun vx vy => (vy - vx, flagOf (settings.noBorrow vy vx))
  | .shiftLeft =>
    combineWithFlag machine x y fun vx vy =>
      (settings.shiftSource vx vy <<< 1, settings.shiftSource vx vy >>> 7)
  | .skipUnlessSame => skipOnBoth machine x y fun vx vy => vx != vy
  | .setIndex => next { machine with index := instruction.address }
  | .jumpOffset => do
    let offset ← reg machine 0
    return ({ machine with pc := instruction.address + offset.toUInt16 }, .ok .jump)
  | .random =>
    let (byte, rest) := machine.random.nextByte
    assign { machine with random := rest } x (byte &&& instruction.byte)
  | .draw => do
    let after ← draw machine x y instruction.height
    next after
  | .skipIfKey => skipOnKey machine x fun key => keyboard.isDown key
  | .skipUnlessKey => skipOnKey machine x fun key => !keyboard.isDown key
  | .readDelay => assign machine x machine.delayTimer
  | .awaitKey =>
    match keyboard.lowest with
    | some key => assign machine x key.toByte
    | none => some (machine, .ok .block)
  | .setDelay => do
    let vx ← reg machine x
    next { machine with delayTimer := vx }
  | .setSound => do
    let vx ← reg machine x
    next { machine with soundTimer := vx }
  | .addIndex => do
    let vx ← reg machine x
    next { machine with index := machine.index + vx.toUInt16 }
  | .setGlyph => do
    let vx ← reg machine x
    if vx.toNat < 16 then
      let address ← product vx.toNat Font.glyphSize
      next { machine with index := address }
    else return (machine, .error (.noGlyph vx))
  | .storeDecimal => do
    let vx ← reg machine x
    let tens ← sum base 1
    let ones ← sum base 2
    let memory ← write machine.memory base (vx / 100)
    let memory ← write memory tens (vx / 10 % 10)
    let memory ← write memory ones (vx % 10)
    next { machine with memory := memory }
  | .storeRegisters => do
    let count ← transferCount settings x
    let memory ← copyOut machine.registers base count machine.memory
    next { machine with memory := memory, index := settings.indexAfter machine.index count }
  | .loadRegisters => do
    let count ← transferCount settings x
    let registers ← copyIn machine.memory base count machine.registers
    next { machine with registers := registers, index := settings.indexAfter machine.index count }

end Instructions

section Cycles

/-- Complete a key wait once a key is held. -/
def resume (machine : Machine) (instruction : Instruction) (keyboard : Keyboard)
    (now : Readings) : Option Transition :=
  match keyboard.lowest with
  | none => some ⟨.ok .waitingForKey, machine, []⟩
  | some key => do
    let received ← setReg machine instruction.first.toNat key.toByte
    let ready := { received with waiting := none }.resyncClock now.resumed
    return {
      result := .ok (.executed instruction)
      machine := (ready.countDown now.counted).advance .next
      events := [.keyPressed key instruction.x] }

/-- Execute the instruction at the program counter. -/
def perform (machine : Machine) (keyboard : Keyboard) (now : Readings) : Option Transition := do
  let opcode ← fetch machine
  let halting (after : Machine) (fault : Fault) : Transition :=
    ⟨.error fault, { after with halted := true }, [.halting fault machine.pc opcode]⟩
  match Instruction.decode opcode with
  | .error fault => return halting machine fault
  | .ok instruction =>
    let executed := Event.executed machine.pc opcode instruction
    match ← execute machine instruction keyboard with
    | (after, .error fault) => return halting after fault
    | (after, .ok flow) =>
      if flow = .block then
        return ⟨.ok .waitingForKey, { after with waiting := some instruction },
          [executed, .waitingForKey instruction.x]⟩
      else
        return ⟨.ok (.executed instruction), (after.countDown now.counted).advance flow, [executed]⟩

/-- One cycle, under the keys held and the readings of the clock. -/
def cycle (machine : Machine) (keyboard : Keyboard) (now : Readings) : Option Transition :=
  if machine.halted then some ⟨.ok .halted, machine, []⟩
  else
    match machine.waiting with
    | some instruction => resume machine instruction keyboard now
    | none => perform machine keyboard now

end Cycles

end Chip8.Checked
