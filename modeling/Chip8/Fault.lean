import Chip8.Hex

/-!
# Execution faults

The five causes that stop a running program. A fault is raised by the
instruction at the program counter, and the cycle that raises it halts the
machine.
-/

namespace Chip8

/-- Why an instruction could not be executed. -/
inductive Fault where
  /-- No instruction has this opcode. -/
  | unknownOpcode (opcode : UInt16)
  /-- A call while all sixteen return addresses are taken. -/
  | stackOverflow
  /-- A return while no return address is stored. -/
  | stackUnderflow
  /-- A key test on a value that names no key. -/
  | invalidKey (value : UInt8)
  /-- A glyph address asked for a value that has no glyph. -/
  | noGlyph (value : UInt8)
  deriving DecidableEq, Repr

namespace Fault

/-- The text of a fault: opcodes have four digits, other values two. -/
def message : Fault → String
  | unknownOpcode opcode => "unknown opcode " ++ Hex.numeral 4 opcode.toNat
  | stackOverflow => "call stack overflow: more than 16 nested subroutine calls"
  | stackUnderflow => "call stack underflow: return with an empty call stack"
  | invalidKey value =>
    "invalid key " ++ Hex.numeral 2 value.toNat ++ ", keys range from 0x0 to 0xF"
  | noGlyph value =>
    "no font glyph for " ++ Hex.numeral 2 value.toNat ++ ", glyphs range from 0x0 to 0xF"

/-- Whether the cause is a value that is no key. A missing glyph is the same
mistake, since glyphs and keys are numbered alike. -/
def isInvalidKey : Fault → Bool
  | invalidKey _ | noGlyph _ => true
  | _ => false

end Fault

end Chip8
