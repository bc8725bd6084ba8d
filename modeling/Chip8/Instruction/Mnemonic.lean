import Chip8.Decimal
import Chip8.Instruction.Decode

/-!
# Mnemonics

The assembly text of an instruction: a word and its arguments, separated by a
comma and a blank. Registers are one hexadecimal digit after `V`, addresses have
three digits, bytes two, and the height of a sprite is decimal.
-/

namespace Chip8

/-- An argument of a mnemonic. -/
inductive Argument where
  /-- A register, as `VA`. -/
  | register (number : UInt16)
  /-- A byte, as `0x0F`. -/
  | byte (value : UInt16)
  /-- An address, as `0x204`. -/
  | address (value : UInt16)
  /-- A sprite height, in decimal. -/
  | count (value : UInt16)
  /-- A fixed name of a machine part, such as `DT` or `[I]`. -/
  | part (name : String)
  deriving DecidableEq, Repr

/-- The text of an argument. -/
def Argument.text : Argument → String
  | register number => "V" ++ Hex.padded 1 number.toNat
  | byte value => Hex.numeral 2 value.toNat
  | address value => Hex.numeral 3 value.toNat
  | count value => Decimal.numeral value.toNat
  | part name => name

/-- A mnemonic: the operation's word and its arguments. -/
structure Mnemonic where
  word : String
  arguments : List Argument
  deriving DecidableEq, Repr

/-- The text of a mnemonic; a word without arguments stands alone. -/
def Mnemonic.text (mnemonic : Mnemonic) : String :=
  match mnemonic.arguments with
  | [] => mnemonic.word
  | arguments => mnemonic.word ++ " " ++ ", ".intercalate (arguments.map Argument.text)

namespace Instruction

/-- The mnemonic of an instruction. -/
def mnemonic (instruction : Instruction) : Mnemonic :=
  let vx := Argument.register instruction.first
  let vy := Argument.register instruction.second
  let address := Argument.address instruction.first
  let byte := Argument.byte instruction.second
  match instruction.command with
  | .clearScreen => ⟨"CLS", []⟩
  | .returnFromCall => ⟨"RET", []⟩
  | .jump => ⟨"JP", [address]⟩
  | .call => ⟨"CALL", [address]⟩
  | .skipIfByte => ⟨"SE", [vx, byte]⟩
  | .skipUnlessByte => ⟨"SNE", [vx, byte]⟩
  | .skipIfSame => ⟨"SE", [vx, vy]⟩
  | .setByte => ⟨"LD", [vx, byte]⟩
  | .addByte => ⟨"ADD", [vx, byte]⟩
  | .copy => ⟨"LD", [vx, vy]⟩
  | .bitOr => ⟨"OR", [vx, vy]⟩
  | .bitAnd => ⟨"AND", [vx, vy]⟩
  | .bitXor => ⟨"XOR", [vx, vy]⟩
  | .add => ⟨"ADD", [vx, vy]⟩
  | .subtract => ⟨"SUB", [vx, vy]⟩
  | .shiftRight => ⟨"SHR", [vx, vy]⟩
  | .subtractFrom => ⟨"SUBN", [vx, vy]⟩
  | .shiftLeft => ⟨"SHL", [vx, vy]⟩
  | .skipUnlessSame => ⟨"SNE", [vx, vy]⟩
  | .setIndex => ⟨"LD", [.part "I", address]⟩
  | .jumpOffset => ⟨"JP", [.part "V0", address]⟩
  | .random => ⟨"RND", [vx, byte]⟩
  | .draw => ⟨"DRW", [vx, vy, .count instruction.third]⟩
  | .skipIfKey => ⟨"SKP", [vx]⟩
  | .skipUnlessKey => ⟨"SKNP", [vx]⟩
  | .readDelay => ⟨"LD", [vx, .part "DT"]⟩
  | .awaitKey => ⟨"LD", [vx, .part "K"]⟩
  | .setDelay => ⟨"LD", [.part "DT", vx]⟩
  | .setSound => ⟨"LD", [.part "ST", vx]⟩
  | .addIndex => ⟨"ADD", [.part "I", vx]⟩
  | .setGlyph => ⟨"LD", [.part "F", vx]⟩
  | .storeDecimal => ⟨"LD", [.part "B", vx]⟩
  | .storeRegisters => ⟨"LD", [.part "[I]", vx]⟩
  | .loadRegisters => ⟨"LD", [vx, .part "[I]"]⟩

/-- The assembly text of an instruction. -/
def text (instruction : Instruction) : String :=
  instruction.mnemonic.text

end Instruction

end Chip8
