import Chip8.Fault
import Chip8.Instruction.Table

/-!
# Decoded instructions

An instruction is a command with its operands in the order of the table row.
Decoding takes the first row that accepts the opcode; an opcode accepted by no
row is a fault.
-/

namespace Chip8

/-- One of the sixteen registers V0 to VF. -/
abbrev Register := Fin 16

/-- A decoded opcode. Operands that the row does not have are zero. -/
structure Instruction where
  command : Command
  opcode : UInt16
  first : UInt16
  second : UInt16
  third : UInt16
  deriving DecidableEq, Repr

/-- Read an opcode's operands as the row places them. -/
def Row.read (row : Row) (opcode : UInt16) : Instruction :=
  let values := row.operands.map (·.extract opcode)
  { command := row.command
    opcode := opcode
    first := values.getD 0 0
    second := values.getD 1 0
    third := values.getD 2 0 }

namespace Instruction

/-- The instruction of an opcode by the first of the given rows that accepts it. -/
def scan (rows : List Row) (opcode : UInt16) : Option Instruction :=
  (rows.find? (·.accepts opcode)).map (·.read opcode)

/-- The instruction of an opcode. -/
def decode (opcode : UInt16) : Except Fault Instruction :=
  match scan instructionTable opcode with
  | some instruction => .ok instruction
  | none => .error (.unknownOpcode opcode)

/-- All three operand places. -/
def operands (instruction : Instruction) : List UInt16 :=
  [instruction.first, instruction.second, instruction.third]

/-- The first operand as a register. -/
def x (instruction : Instruction) : Register :=
  Fin.ofNat 16 instruction.first.toNat

/-- The second operand as a register. -/
def y (instruction : Instruction) : Register :=
  Fin.ofNat 16 instruction.second.toNat

/-- The second operand as a byte. -/
def byte (instruction : Instruction) : UInt8 :=
  instruction.second.toUInt8

/-- The first operand as an address. -/
def address (instruction : Instruction) : UInt16 :=
  instruction.first

/-- The third operand as a number of sprite rows. -/
def height (instruction : Instruction) : Nat :=
  instruction.third.toNat

/-- Whether executing the instruction can change the screen. -/
def isDisplay (instruction : Instruction) : Bool :=
  instruction.command = .clearScreen || instruction.command = .draw

end Instruction

end Chip8
