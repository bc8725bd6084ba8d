import Chip8.Font

/-!
# Memory

4096 bytes. Every address is taken modulo the size, so an access can start
anywhere and runs on at address zero. The glyphs stand at the beginning and
programs start at `0x200`.
-/

namespace Chip8

/-- The bytes of memory. -/
structure Memory where
  bytes : Vector UInt8 4096
  deriving DecidableEq, Repr

namespace Memory

/-- Number of bytes. -/
def size : Nat := 4096

/-- Where a program begins. -/
def programStart : Nat := 0x200

/-- The most bytes a program can have. -/
def programSize : Nat := size - programStart

/-- The byte at an address, modulo the size. -/
def read (memory : Memory) (address : Nat) : UInt8 :=
  memory.bytes.get ⟨address % 4096, Nat.mod_lt _ (by decide)⟩

/-- Set the byte at an address, modulo the size. -/
def write (memory : Memory) (address : Nat) (value : UInt8) : Memory :=
  ⟨memory.bytes.set (address % 4096) value (Nat.mod_lt _ (by decide))⟩

/-- The bytes from an address on. -/
def readMany (memory : Memory) (address count : Nat) : List UInt8 :=
  (List.range count).map fun offset => memory.read (address + offset)

/-- Set the bytes from an address on, in ascending order. -/
def writeMany (memory : Memory) (address : Nat) : List UInt8 → Memory
  | [] => memory
  | value :: values => (memory.write address value).writeMany (address + 1) values

/-- The glyphs, and zero everywhere else. -/
def initial : Memory :=
  (⟨Vector.replicate 4096 0⟩ : Memory).writeMany 0 Font.glyphs

/-- The big-endian word at an address. -/
def word (memory : Memory) (address : Nat) : UInt16 :=
  (memory.read address).toUInt16 <<< 8 ||| (memory.read (address + 1)).toUInt16

end Memory

end Chip8
