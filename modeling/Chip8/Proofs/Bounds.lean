import Chip8.Proofs.Checked
import Chip8.Proofs.Waiting

/-!
# Nothing is out of range

The checked cycle always has an outcome, the one of the cycle itself. The bounds come
from three sides: the operands of a decoded instruction fit the places the table gives
them, addresses and coordinates are wrapped before they are used, and what a machine waits
on was decoded.
-/

namespace Chip8

/-- The bits under a mask, moved to the right, are at most the mask moved to the right. -/
theorem Operand.extract_le (operand : Operand) (opcode : UInt16) :
    (operand.extract opcode).toNat ≤ (operand.mask >>> operand.shift.toUInt16).toNat := by
  have masked : opcode.toNat &&& operand.mask.toNat ≤ operand.mask.toNat := Nat.and_le_right
  simp only [extract, UInt16.toNat_shiftRight, UInt16.toNat_and, Nat.shiftRight_eq_div_pow]
  exact Nat.div_le_div_right masked

/-- An operand read from its place in a row is bounded by the width of the place. -/
theorem Row.operand_le {row : Row} {operand : Operand} {place : Nat} (opcode : UInt16)
    (placed : row.operands[place]? = some operand) :
    ((row.operands.map fun source : Operand => source.extract opcode).getD place 0).toNat ≤
      (operand.mask >>> operand.shift.toUInt16).toNat := by
  rw [List.getD_eq_getElem?_getD, List.getElem?_map, placed]
  exact operand.extract_le opcode

/-- How many of the leading operands of a command are registers. -/
def Command.registers : Command → Nat
  | .clearScreen | .returnFromCall | .jump | .call | .setIndex | .jumpOffset => 0
  | .skipIfSame | .copy | .bitOr | .bitAnd | .bitXor | .add | .subtract | .shiftRight
  | .subtractFrom | .shiftLeft | .skipUnlessSame | .draw => 2
  | _ => 1

/-- The operands that a command uses as registers name one of the sixteen, and no sprite
is higher than fifteen rows. -/
structure Instruction.InRange (instruction : Instruction) : Prop where
  first : 1 ≤ instruction.command.registers → instruction.first.toNat < 16
  second : 2 ≤ instruction.command.registers → instruction.second.toNat < 16
  third : instruction.third.toNat ≤ 15

namespace Instruction.InRange

variable {instruction : Instruction} (inRange : instruction.InRange)
include inRange

/-- An operand in range is its own register: reducing VX modulo sixteen changes nothing. -/
theorem x_eq (registers : 1 ≤ instruction.command.registers) :
    instruction.first.toNat = instruction.x.val :=
  (Nat.mod_eq_of_lt (inRange.first registers)).symm

/-- The same for the operand of VY. -/
theorem y_eq (registers : 2 ≤ instruction.command.registers) :
    instruction.second.toNat = instruction.y.val :=
  (Nat.mod_eq_of_lt (inRange.second registers)).symm

end Instruction.InRange

/-- The operands of a row stand where its command expects them. -/
theorem operands_placed :
    ∀ row ∈ instructionTable,
      (1 ≤ row.command.registers → row.operands[0]? = some .x) ∧
      (2 ≤ row.command.registers → row.operands[1]? = some .y) ∧
      (row.operands[2]? = none ∨ row.operands[2]? = some .nibble) := by
  decide +kernel

/-- Decoded operands are in range. -/
theorem Instruction.inRange_of_decode {opcode : UInt16} {instruction : Instruction}
    (decoded : decode opcode = .ok instruction) : instruction.InRange := by
  obtain ⟨row, listed, -, rfl⟩ := row_of_decode decoded
  obtain ⟨first, second, third⟩ := operands_placed row listed
  constructor
  · intro registers
    exact Nat.lt_succ_of_le (Row.operand_le opcode (first registers))
  · intro registers
    exact Nat.lt_succ_of_le (Row.operand_le opcode (second registers))
  · rcases third with absent | placed
    · simp [Row.read, absent]
    · exact Row.operand_le opcode placed

namespace Checked

/-- A loop whose steps all succeed succeeds. -/
theorem foldlM_eq_some {α β : Type} {step : β → α → Option β} {total : β → α → β}
    (entries : List α) (succeeds : ∀ entry ∈ entries, ∀ state, step state entry =
      some (total state entry)) (start : β) :
    entries.foldlM step start = some (entries.foldl total start) := by
  induction entries generalizing start with
  | nil => rfl
  | cons entry rest inductionHypothesis =>
    obtain ⟨first, later⟩ := List.forall_mem_cons.mp succeeds
    rw [List.foldlM_cons, first start]
    exact inductionHypothesis later _

/-- A sum below 2³² is an index. -/
theorem sum_eq {first second : Nat} (fits : first + second < 0x100000000) :
    sum first second = some (first + second) :=
  if_pos fits

section Tables

variable {α : Type} {size : Nat}

/-- A checked look-up inside a table finds the entry. -/
theorem get_eq (table : Vector α size) {index : Nat} (inside : index < size) :
    get table index = some table[index] :=
  Vector.getElem?_eq_getElem inside

/-- A checked replacement inside a table replaces the entry. -/
theorem set_eq (table : Vector α size) {index : Nat} (inside : index < size) (value : α) :
    set table index value = some (table.set index value) :=
  dif_pos inside

end Tables

section Memory

variable {size : Nat}

/-- A wrapped address is inside memory, so a checked read finds a byte. -/
theorem read_eq (memory : Memory) (address : Nat) :
    read memory address = some (memory.read address) :=
  get_eq memory.bytes (Nat.mod_lt address (by decide))

/-- A wrapped address is inside memory, so a checked write goes through. -/
theorem write_eq (memory : Memory) (address : Nat) (value : UInt8) :
    write memory address value = some (memory.write address value) := by
  have inside : address % Memory.size < 4096 := Nat.mod_lt address (by decide)
  rw [write, set_eq memory.bytes inside]
  rfl

/-- A checked fetch finds both bytes: the program counter is a word, and its successor
needs no more than 32 bits. -/
theorem fetch_eq (machine : Machine) : fetch machine = some machine.fetch := by
  have bound : machine.pc.toNat < 65536 := machine.pc.toNat_lt
  unfold fetch
  rw [sum_eq (by omega), read_eq]
  simp only [Option.bind_eq_bind, Option.bind_some, read_eq]
  rfl

/-- Copying in replaces the first entries by the bytes and leaves the others. -/
theorem copyIn_eq (memory : Memory) {base count : Nat} (table : Vector UInt8 size)
    (address : base < 65536) (inside : count ≤ size) (few : count ≤ 16) :
    copyIn memory base count table =
      some (Vector.ofFn fun entry =>
        if entry.val < count then memory.read (base + entry.val) else table.get entry) := by
  induction count with
  | zero =>
    apply congrArg some
    ext entry bound
    simp [Vector.get]
  | succ count inductionHypothesis =>
    have earlier := inductionHypothesis (by omega) (by omega)
    rw [copyIn] at earlier
    rw [copyIn, List.range_succ, List.foldlM_append, earlier]
    have fits : count < size := by omega
    simp only [Option.bind_eq_bind, Option.bind_some, List.foldlM_cons, List.foldlM_nil,
      sum_eq (show base + count < 0x100000000 by omega), read_eq, set_eq _ fits]
    apply congrArg some
    ext entry bound
    simp only [Vector.getElem_set, Vector.getElem_ofFn]
    by_cases last : count = entry
    · simp [last]
    · have same : entry < count ↔ entry < count + 1 := by omega
      simp [last, same]

/-- Appending a byte to what is stored stores it behind the rest. -/
theorem writeMany_append (memory : Memory) (base : Nat) (values : List UInt8) (last : UInt8) :
    memory.writeMany base (values ++ [last]) =
      (memory.writeMany base values).write (base + values.length) last := by
  induction values generalizing memory base with
  | nil => rfl
  | cons value rest inductionHypothesis =>
    rw [List.cons_append, Memory.writeMany, inductionHypothesis, List.length_cons,
      Memory.writeMany, Nat.add_right_comm, Nat.add_assoc]

/-- Copying out stores the first entries. -/
theorem copyOut_eq (memory : Memory) {base count : Nat} (table : Vector UInt8 size)
    (address : base < 65536) (inside : count ≤ size) (few : count ≤ 16) :
    copyOut table base count memory =
      some (memory.writeMany base (table.toList.take count)) := by
  induction count with
  | zero => rfl
  | succ count inductionHypothesis =>
    have earlier := inductionHypothesis (by omega) (by omega)
    rw [copyOut] at earlier
    rw [copyOut, List.range_succ, List.foldlM_append, earlier]
    have fits : count < size := by omega
    have length : (table.toList.take count).length = count := by simp; omega
    have entries : table.toList.take (count + 1) = table.toList.take count ++ [table[count]] := by
      simp [List.take_add_one, fits]
    simp only [Option.bind_eq_bind, Option.bind_some, List.foldlM_cons, List.foldlM_nil,
      sum_eq (show base + count < 0x100000000 by omega), get_eq _ fits, write_eq, entries,
      writeMany_append, length]
    rfl

end Memory

section Stack

/-- A checked push goes through. Where it is refused no slot is touched; where it is not
there is a free slot and the depth stays within the sixteen. -/
theorem push_eq (stack : CallStack) (address : UInt16) :
    push stack address = some (stack.push address) := by
  have bound : stack.depth ≤ 16 := stack.depth_le
  by_cases room : stack.depth < 16
  · have free : ¬ CallStack.capacity ≤ stack.depth := Nat.not_le_of_lt room
    have deeper : stack.depth + 1 ≤ 16 := room
    simp only [push, free, if_false, set_eq _ room, Option.bind_eq_bind, Option.bind_some,
      sum_eq (show stack.depth + 1 < 0x100000000 by omega), deeper, dite_true,
      CallStack.push, room]
    rfl
  · have full : CallStack.capacity ≤ stack.depth := Nat.le_of_not_lt room
    simp only [push, full, if_true, CallStack.push, room, dite_false]

/-- A checked pop goes through: below a positive depth there is a slot. -/
theorem pop_eq (stack : CallStack) : pop stack = some stack.pop := by
  obtain ⟨slots, depth, bound⟩ := stack
  cases depth with
  | zero => rfl
  | succ rest =>
    have inside : rest < 16 := by omega
    simp only [pop, get_eq slots inside, Option.bind_eq_bind, Option.bind_some,
      dif_pos (Nat.le_of_lt inside)]
    rfl

end Stack

section Screen

/-- A wrapped coordinate pair always has a cell. -/
theorem toggle_eq (drawing : Drawing) (x y : Nat) :
    toggle drawing x y = some (Screen.Drawing.toggle drawing (Screen.cell x y)) := by
  have inside : y % Screen.height * Screen.width + x % Screen.width < 2048 := by
    simp only [Screen.height, Screen.width]
    omega
  simp only [toggle, get_eq _ inside, set_eq _ inside, Option.bind_eq_bind, Option.bind_some]
  rfl

/-- The columns of a sprite row are the eight from the left. -/
theorem litColumns_lt {row : UInt8} {column : Nat} (lit : column ∈ Screen.litColumns row) :
    column < 8 :=
  List.mem_range.mp (List.mem_filter.mp lit).1

/-- A checked row is drawn as the row: no sum of a coordinate and a column is too large. -/
theorem drawRow_eq {x : Nat} (left : x < 256) (line : Nat) (row : UInt8) (drawing : Drawing) :
    drawRow x line row drawing =
      some (((Screen.litColumns row).map fun column => Screen.cell (x + column) line).foldl
        Screen.Drawing.toggle drawing) := by
  rw [List.foldl_map]
  apply foldlM_eq_some
  intro column lit state
  have few : column < 8 := litColumns_lt lit
  simp only [sum_eq (show x + column < 0x100000000 by omega), toggle_eq, Option.bind_eq_bind,
    Option.bind_some]

/-- The rows of a sprite of ordinary height are drawn where they belong. -/
theorem drawRows_eq {x y : Nat} (left : x < 256) (top : y < 256) (rows : List UInt8)
    (offset : Nat) (few : offset + rows.length ≤ 15) (drawing : Drawing) :
    drawRows x y offset rows drawing =
      some ((Screen.spriteCells x (y + offset) rows).foldl Screen.Drawing.toggle drawing) := by
  induction rows generalizing offset drawing with
  | nil => rfl
  | cons row rest inductionHypothesis =>
    rw [List.length_cons] at few
    simp only [drawRows, sum_eq (show y + offset < 0x100000000 by omega), drawRow_eq left,
      Option.bind_eq_bind, Option.bind_some, Screen.spriteCells, List.foldl_append]
    exact inductionHypothesis (offset + 1) (by omega) _

end Screen

section Instructions

/-- A register has an entry in the register table. -/
theorem reg_eq (machine : Machine) (register : Register) :
    reg machine register.val = some (machine.reg register) :=
  get_eq machine.registers register.isLt

/-- A register can be stored into the register table. -/
theorem setReg_eq (machine : Machine) (register : Register) (value : UInt8) :
    setReg machine register.val value = some (machine.setReg register value) := by
  rw [setReg, set_eq machine.registers register.isLt]
  rfl

/-- The rows in the buffer are the bytes they were copied from. -/
theorem slice_copied (memory : Memory) (base : Nat) {height : Nat} (low : height ≤ maxHeight)
    (buffer : Vector UInt8 maxHeight) :
    slice (Vector.ofFn fun entry : Fin maxHeight =>
        if entry.val < height then memory.read (base + entry.val) else buffer.get entry)
        height =
      some (memory.readMany base height) := by
  rw [slice, if_pos low]
  apply congrArg some
  apply List.ext_getElem
  · simp [Memory.readMany, low]
  · intro entry copied present
    have below : entry < height := by simpa [Memory.readMany] using present
    simp [Memory.readMany, below]

/-- A checked sprite of at most fifteen rows is drawn as the sprite. -/
theorem draw_eq (machine : Machine) (x y : Register) {height : Nat} (low : height ≤ 15) :
    draw machine x.val y.val height = some (machine.draw x y height) := by
  have base : machine.index.toNat < 65536 := machine.index.toNat_lt
  have left : (machine.reg x).toNat < 256 := (machine.reg x).toNat_lt
  have top : (machine.reg y).toNat < 256 := (machine.reg y).toNat_lt
  have fill : min height maxHeight = height := Nat.min_eq_left low
  have few : 0 + (machine.memory.readMany machine.index.toNat height).length ≤ 15 := by
    simpa [Memory.readMany] using low
  rw [draw, fill, copyIn_eq machine.memory (Vector.replicate maxHeight 0) base low (by omega)]
  simp only [Option.bind_eq_bind, Option.bind_some, reg_eq, slice_copied _ _ low,
    drawRows_eq left top _ 0 few, Nat.add_zero]
  exact setReg_eq _ Machine.flag _

/-- The number of registers to move is at most sixteen. -/
theorem transferCount_eq (settings : Settings) (x : Register) :
    transferCount settings x.val = some (settings.transferCount x) ∧
      settings.transferCount x ≤ 16 := by
  have bound : x.val < 16 := x.isLt
  unfold transferCount Settings.transferCount
  split
  · exact ⟨sum_eq (by omega), by omega⟩
  · exact ⟨rfl, by omega⟩

/-- A glyph's address fits the index register. -/
theorem product_eq {digit : Nat} (listed : digit < 16) :
    product digit Font.glyphSize = some (UInt16.ofNat (Font.address digit)) := by
  apply if_pos
  rw [Font.glyphSize]
  omega

section Shapes

variable (machine : Machine) (x y : Register)

/-- The checked assignment to VX never gets out of range. -/
theorem assign_eq (value : UInt8) :
    assign machine x.val value = some (machine.setReg x value, .ok .next) := by
  rw [assign, setReg_eq]
  rfl

/-- The checked combination of VX and VY never gets out of range. -/
theorem combine_eq (operation : UInt8 → UInt8 → UInt8) :
    combine machine x.val y.val operation =
      some (machine.setReg x (operation (machine.reg x) (machine.reg y)), .ok .next) := by
  simp only [combine, reg_eq, Option.bind_eq_bind, Option.bind_some, assign_eq]

/-- The checked combination that also stores a flag never gets out of range. -/
theorem combineWithFlag_eq (operation : UInt8 → UInt8 → UInt8 × UInt8) :
    combineWithFlag machine x.val y.val operation =
      some (machine.setWithFlag x (operation (machine.reg x) (machine.reg y)).1
        (operation (machine.reg x) (machine.reg y)).2, .ok .next) := by
  simp only [combineWithFlag, reg_eq, Option.bind_eq_bind, Option.bind_some, setReg_eq]
  exact assign_eq _ Machine.flag _

/-- The checked skip that looks at VX never gets out of range. -/
theorem skipOn_eq (condition : UInt8 → Bool) :
    skipOn machine x.val condition =
      some (machine, .ok (.skipIf (condition (machine.reg x)))) := by
  rw [skipOn, reg_eq]
  rfl

/-- The checked skip that looks at VX and VY never gets out of range. -/
theorem skipOnBoth_eq (condition : UInt8 → UInt8 → Bool) :
    skipOnBoth machine x.val y.val condition =
      some (machine, .ok (.skipIf (condition (machine.reg x) (machine.reg y)))) := by
  simp only [skipOnBoth, reg_eq, Option.bind_eq_bind, Option.bind_some]
  rfl

/-- The checked skip that looks at a key never gets out of range, whether VX names a key
or not. -/
theorem skipOnKey_eq (condition : Key → Bool) :
    skipOnKey machine x.val condition =
      some (match Key.ofByte (machine.reg x) with
        | .error fault => (machine, .error fault)
        | .ok key => (machine, .ok (.skipIf (condition key)))) := by
  simp only [skipOnKey, reg_eq, Option.bind_eq_bind, Option.bind_some]
  cases Key.ofByte (machine.reg x) <;> rfl

end Shapes

/-- An instruction whose operands are in range makes no access out of range and computes
no number too large. The commands are grouped by the accesses they make. -/
theorem execute_eq (machine : Machine) {instruction : Instruction}
    (inRange : instruction.InRange) (keyboard : Keyboard) :
    execute machine instruction keyboard = some (machine.execute instruction keyboard) := by
  have base : machine.index.toNat < 65536 := machine.index.toNat_lt
  unfold execute Machine.execute
  cases command : instruction.command <;> simp only
  case clearScreen | setIndex => rfl
  case returnFromCall =>
    rw [pop_eq]
    rcases machine.stack.pop with ⟨stack, fault | caller⟩ <;> rfl
  case call =>
    rw [push_eq]
    rcases machine.stack.push machine.pc with ⟨stack, fault | stored⟩ <;> rfl
  case jumpOffset => exact congrArg (Option.bind · _) (reg_eq machine Machine.v0)
  -- Every other command has a register for its first operand.
  all_goals rw [inRange.x_eq (by rw [command]; decide)]
  case skipIfByte | skipUnlessByte => exact skipOn_eq machine _ _
  case setByte | random | readDelay => exact assign_eq _ _ _
  case addByte => rw [reg_eq]; exact assign_eq _ _ _
  case skipIfKey | skipUnlessKey => exact skipOnKey_eq machine _ _
  case awaitKey =>
    cases keyboard.lowest with
    | none => rfl
    | some key => exact assign_eq _ _ _
  case setDelay | setSound | addIndex => rw [reg_eq]; rfl
  case setGlyph =>
    simp only [reg_eq, Option.bind_eq_bind, Option.bind_some]
    by_cases listed : (machine.reg instruction.x).toNat < 16
    · simp only [listed, if_true, product_eq listed, Option.bind_some]
      rfl
    · simp only [listed, if_false]
      rfl
  case storeDecimal =>
    simp only [reg_eq, sum_eq (show machine.index.toNat + 1 < 0x100000000 by omega),
      sum_eq (show machine.index.toNat + 2 < 0x100000000 by omega), write_eq,
      Option.bind_eq_bind, Option.bind_some]
    rfl
  case storeRegisters =>
    obtain ⟨counted, few⟩ := transferCount_eq machine.settings instruction.x
    simp only [counted, copyOut_eq machine.memory machine.registers base few few,
      Option.bind_eq_bind, Option.bind_some]
    rfl
  case loadRegisters =>
    obtain ⟨counted, few⟩ := transferCount_eq machine.settings instruction.x
    simp only [counted, copyIn_eq machine.memory machine.registers base few few,
      Option.bind_eq_bind, Option.bind_some]
    rfl
  -- The rest have two registers for operands.
  all_goals rw [inRange.y_eq (by rw [command]; decide)]
  case skipIfSame | skipUnlessSame => exact skipOnBoth_eq machine _ _ _
  case copy | bitOr | bitAnd | bitXor => exact combine_eq machine _ _ _
  case draw =>
    have low : instruction.height ≤ 15 := inRange.third
    rw [draw_eq machine _ _ low]
    rfl
  all_goals exact combineWithFlag_eq machine _ _ _

end Instructions

/-- The checked cycle of a machine has the outcome of its cycle, if the instruction it
waits on has its operands in range. An instruction that is fetched and decoded always
has. -/
theorem cycle_eq (machine : Machine) (keyboard : Keyboard) (now : Readings)
    (sound : ∀ instruction, machine.waiting = some instruction →
      instruction.InRange ∧ instruction.command = .awaitKey) :
    cycle machine keyboard now = some (machine.cycle keyboard now) := by
  generalize outcome : machine.cycle keyboard now = transition
  have course := outcome ▸ machine.cycle_course keyboard now
  cases course with
  | halted stopped => simp [cycle, stopped]
  | waiting instruction running awaited released =>
    simp [cycle, running, awaited, resume, released]
  | resumed instruction key running awaited pressed =>
    obtain ⟨inRange, awaits⟩ := sound instruction awaited
    have register := inRange.x_eq (by rw [awaits]; decide)
    simp only [cycle, running, awaited, resume, pressed, register, setReg_eq]
    rfl
  | unknown fault running free undecoded =>
    simp [cycle, running, free, perform, fetch_eq, undecoded]
  | refused instruction fault running free decoded refused =>
    have inRange := Instruction.inRange_of_decode decoded
    have failed : machine.execute instruction keyboard = (machine, .error fault) :=
      Machine.execute_eq_error_iff.mpr ⟨refused, rfl⟩
    simp [cycle, running, free, perform, fetch_eq, decoded, execute_eq machine inRange, failed]
  | blocked instruction running free decoded awaits released =>
    have inRange := Instruction.inRange_of_decode decoded
    have blocks : machine.execute instruction keyboard = (machine, .ok .block) := by
      simp [Machine.execute, awaits, released]
    simp [cycle, running, free, perform, fetch_eq, decoded, execute_eq machine inRange, blocks]
  | executed instruction after flow running free decoded done moves =>
    have inRange := Instruction.inRange_of_decode decoded
    simp [cycle, running, free, perform, fetch_eq, decoded, execute_eq machine inRange, done,
      moves]

end Checked

namespace Machine

/-- Nothing is ever out of range. In every state that a run can reach, at most sixteen
return addresses are stored, picture and touched cells have 2048 bits each, and an
instruction that the machine waits on is a decoded key wait, still the one at the program
counter if no program was loaded since the machine blocked on it. In every cycle from
there all registers, return addresses, bytes, cells and sprite rows are inside their
tables and no index is too large: the checked cycle has an outcome, and it is the outcome
of the cycle. -/
theorem never_out_of_range (settings : Settings) (start : Instant) (entropy : Random.StreamKey)
    (actions : List Action) :
    let history := (boot settings start entropy).history actions
    let machine := (boot settings start entropy).run actions
    machine.stack.depth ≤ 16 ∧
    machine.screen.pixels.toArray.size = 2048 ∧ machine.screen.dirty.toArray.size = 2048 ∧
    (∀ instruction, machine.waiting = some instruction →
      Instruction.decode instruction.opcode = .ok instruction ∧
      instruction.command = .awaitKey ∧
      ∃ earlier blocking later, history = earlier ++ blocking :: later ∧
        WaitSince instruction blocking later ∧
        ((∀ moment ∈ later, moment.loads = false) → machine.fetch = instruction.opcode)) ∧
    ∀ keyboard now, Checked.cycle machine keyboard now = some (machine.cycle keyboard now) := by
  intro history machine
  have sound : machine.WaitsSoundly history := run_waitsSoundly settings start entropy actions
  refine ⟨machine.stack.depth_le, machine.screen.pixels.size_toArray,
    machine.screen.dirty.size_toArray, sound, ?_⟩
  intro keyboard now
  apply Checked.cycle_eq
  intro instruction waits
  obtain ⟨decoded, awaits, -⟩ := sound instruction waits
  exact ⟨Instruction.inRange_of_decode decoded, awaits⟩

/-- Load `F30A`, block on it, present, try to load a program that is too large, and wait on. -/
def refusedWhileWaiting : List Action :=
  [.load [0xF3, 0x0A], .cycle .idle (.still 0), .present, .load (List.replicate 3585 0),
    .cycle .idle (.still 0)]

/-- The machine that waits on `F30A` still has it at the program counter, since nothing was
loaded during the wait, and the cycle that ends the wait makes no access out of range. It
would if the machine waited to set a register behind the last one. -/
theorem waiting_in_range :
    let machine := (boot {} 0 (Vector.replicate 8 0)).run refusedWhileWaiting
    let history := (boot {} 0 (Vector.replicate 8 0)).history refusedWhileWaiting
    let instruction : Instruction := ⟨.awaitKey, 0xF30A, 3, 0, 0⟩
    machine.waiting = some instruction ∧
    (∀ moment ∈ history, moment.after.waiting = some instruction → moment.loads = false) ∧
    machine.fetch = 0xF30A ∧
    Checked.cycle machine (.ofList [5]) (.still 0) =
      some (machine.cycle (.ofList [5]) (.still 0)) ∧
    Checked.cycle { machine with waiting := some { instruction with first := 16 } }
      (.ofList [5]) (.still 0) = none := by
  intro machine history instruction
  have waits : machine.waiting = some instruction := by decide +kernel
  have refused : ∀ moment ∈ history,
      moment.after.waiting = some instruction → moment.loads = false := by decide +kernel
  obtain ⟨-, -, -, waiting, checked⟩ :=
    never_out_of_range {} 0 (Vector.replicate 8 0) refusedWhileWaiting
  obtain ⟨-, -, earlier, blocking, later, cut, wait, fetched⟩ := waiting instruction waits
  refine ⟨waits, refused, fetched ?_, checked _ _, by decide +kernel⟩
  intro moment member
  have listed : moment ∈ history := by
    rw [show history = _ from cut]
    exact List.mem_append_right _ (List.mem_cons_of_mem _ member)
  exact refused moment listed (wait.lasting moment (List.mem_cons_of_mem _ member))

end Machine

end Chip8
