/-!
# The instruction table

Every opcode is a 16-bit word. A row of the table fixes some of its bits by a
mask and a pattern, and says where the remaining bits carry operands. The 34
rows are disjoint: no opcode belongs to two of them, so the order of the rows
has no effect on what is decoded.
-/

namespace Chip8

/-- What an instruction does, one name for each row of the table. -/
inductive Command where
  /-- `00E0`: turn every pixel off. -/
  | clearScreen
  /-- `00EE`: return from a subroutine. -/
  | returnFromCall
  /-- `1NNN`: continue at an address. -/
  | jump
  /-- `2NNN`: call the subroutine at an address. -/
  | call
  /-- `3XKK`: skip when a register equals a byte. -/
  | skipIfByte
  /-- `4XKK`: skip unless a register equals a byte. -/
  | skipUnlessByte
  /-- `5XY0`: skip when two registers are equal. -/
  | skipIfSame
  /-- `6XKK`: set a register to a byte. -/
  | setByte
  /-- `7XKK`: add a byte to a register, leaving the flag alone. -/
  | addByte
  /-- `8XY0`: copy a register. -/
  | copy
  /-- `8XY1`: bitwise disjunction. -/
  | bitOr
  /-- `8XY2`: bitwise conjunction. -/
  | bitAnd
  /-- `8XY3`: bitwise exclusive disjunction. -/
  | bitXor
  /-- `8XY4`: sum of two registers, with carry. -/
  | add
  /-- `8XY5`: first register less the second. -/
  | subtract
  /-- `8XY6`: shift right by one bit. -/
  | shiftRight
  /-- `8XY7`: second register less the first. -/
  | subtractFrom
  /-- `8XYE`: shift left by one bit. -/
  | shiftLeft
  /-- `9XY0`: skip unless two registers are equal. -/
  | skipUnlessSame
  /-- `ANNN`: set the index register. -/
  | setIndex
  /-- `BNNN`: continue at an address offset by V0. -/
  | jumpOffset
  /-- `CXKK`: a random byte under a mask. -/
  | random
  /-- `DXYN`: draw a sprite. -/
  | draw
  /-- `EX9E`: skip when a key is down. -/
  | skipIfKey
  /-- `EXA1`: skip unless a key is down. -/
  | skipUnlessKey
  /-- `FX07`: read the delay timer. -/
  | readDelay
  /-- `FX0A`: wait for a key. -/
  | awaitKey
  /-- `FX15`: set the delay timer. -/
  | setDelay
  /-- `FX18`: set the sound timer. -/
  | setSound
  /-- `FX1E`: add a register to the index register. -/
  | addIndex
  /-- `FX29`: point the index register at a glyph. -/
  | setGlyph
  /-- `FX33`: store a register as three decimal digits. -/
  | storeDecimal
  /-- `FX55`: store registers from V0 on. -/
  | storeRegisters
  /-- `FX65`: load registers from V0 on. -/
  | loadRegisters
  deriving DecidableEq, Repr

/-- Where an opcode carries an operand: the bits under `mask`, moved right by
`shift` places. -/
structure Operand where
  mask : UInt16
  shift : UInt8
  deriving DecidableEq, Repr

namespace Operand

/-- The operand's value in an opcode. -/
def extract (operand : Operand) (opcode : UInt16) : UInt16 :=
  (opcode &&& operand.mask) >>> operand.shift.toUInt16

/-- The opcode bits that carry a value. -/
def place (operand : Operand) (value : UInt16) : UInt16 :=
  value <<< operand.shift.toUInt16

/-- A twelve-bit address. -/
def address : Operand := ⟨0x0FFF, 0⟩

/-- The first register, in the second digit. -/
def x : Operand := ⟨0x0F00, 8⟩

/-- The second register, in the third digit. -/
def y : Operand := ⟨0x00F0, 4⟩

/-- A byte, in the last two digits. -/
def byte : Operand := ⟨0x00FF, 0⟩

/-- A number of rows, in the last digit. -/
def nibble : Operand := ⟨0x000F, 0⟩

end Operand

/-- One kind of opcode: the bits under `mask` are those of `pattern`, the
operands stand in the others. -/
structure Row where
  command : Command
  mask : UInt16
  pattern : UInt16
  operands : List Operand
  deriving DecidableEq, Repr

namespace Row

/-- Whether an opcode belongs to the row. -/
def accepts (row : Row) (opcode : UInt16) : Bool :=
  opcode &&& row.mask == row.pattern

/-- The opcode of a row with the given operand values. -/
def assemble (row : Row) (values : List UInt16) : UInt16 :=
  (List.zipWith Operand.place row.operands values).foldl (· ||| ·) row.pattern

end Row

/-- All instructions, by opcode within each leading digit. -/
def instructionTable : List Row :=
  [ ⟨.returnFromCall, 0xFFFF, 0x00EE, []⟩,
    ⟨.clearScreen, 0xFFFF, 0x00E0, []⟩,
    ⟨.jump, 0xF000, 0x1000, [.address]⟩,
    ⟨.call, 0xF000, 0x2000, [.address]⟩,
    ⟨.skipIfByte, 0xF000, 0x3000, [.x, .byte]⟩,
    ⟨.skipUnlessByte, 0xF000, 0x4000, [.x, .byte]⟩,
    ⟨.skipIfSame, 0xF00F, 0x5000, [.x, .y]⟩,
    ⟨.setByte, 0xF000, 0x6000, [.x, .byte]⟩,
    ⟨.addByte, 0xF000, 0x7000, [.x, .byte]⟩,
    ⟨.copy, 0xF00F, 0x8000, [.x, .y]⟩,
    ⟨.bitOr, 0xF00F, 0x8001, [.x, .y]⟩,
    ⟨.bitAnd, 0xF00F, 0x8002, [.x, .y]⟩,
    ⟨.bitXor, 0xF00F, 0x8003, [.x, .y]⟩,
    ⟨.add, 0xF00F, 0x8004, [.x, .y]⟩,
    ⟨.subtract, 0xF00F, 0x8005, [.x, .y]⟩,
    ⟨.shiftRight, 0xF00F, 0x8006, [.x, .y]⟩,
    ⟨.subtractFrom, 0xF00F, 0x8007, [.x, .y]⟩,
    ⟨.shiftLeft, 0xF00F, 0x800E, [.x, .y]⟩,
    ⟨.skipUnlessSame, 0xF00F, 0x9000, [.x, .y]⟩,
    ⟨.setIndex, 0xF000, 0xA000, [.address]⟩,
    ⟨.jumpOffset, 0xF000, 0xB000, [.address]⟩,
    ⟨.random, 0xF000, 0xC000, [.x, .byte]⟩,
    ⟨.draw, 0xF000, 0xD000, [.x, .y, .nibble]⟩,
    ⟨.skipIfKey, 0xF0FF, 0xE09E, [.x]⟩,
    ⟨.skipUnlessKey, 0xF0FF, 0xE0A1, [.x]⟩,
    ⟨.readDelay, 0xF0FF, 0xF007, [.x]⟩,
    ⟨.awaitKey, 0xF0FF, 0xF00A, [.x]⟩,
    ⟨.setDelay, 0xF0FF, 0xF015, [.x]⟩,
    ⟨.setSound, 0xF0FF, 0xF018, [.x]⟩,
    ⟨.addIndex, 0xF0FF, 0xF01E, [.x]⟩,
    ⟨.setGlyph, 0xF0FF, 0xF029, [.x]⟩,
    ⟨.storeDecimal, 0xF0FF, 0xF033, [.x]⟩,
    ⟨.storeRegisters, 0xF0FF, 0xF055, [.x]⟩,
    ⟨.loadRegisters, 0xF0FF, 0xF065, [.x]⟩ ]

end Chip8
