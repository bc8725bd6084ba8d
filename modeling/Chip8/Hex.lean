/-!
# Hexadecimal numerals

Addresses, opcodes and bytes are printed in upper-case hexadecimal after `0x`,
padded with zeros to the width of their field. A value too large for its field
is printed in full; no digit is ever cut off.
-/

namespace Chip8.Hex

/-- The upper-case digit of a value below sixteen. -/
def digit (n : Nat) : Char :=
  if n < 10 then Char.ofNat (48 + n) else Char.ofNat (55 + n)

/-- The lowest `width` hexadecimal digits of a number, most significant first. -/
def digits : Nat → Nat → List Char
  | 0, _ => []
  | width + 1, n => digits width (n / 16) ++ [digit (n % 16)]

/-- The number of digits a number needs; zero needs one. -/
def size (n : Nat) : Nat :=
  n.log2 / 4 + 1

/-- A numeral of at least `width` digits, without the leading `0x`. -/
def padded (width n : Nat) : String :=
  String.ofList (digits (max width (size n)) n)

/-- A numeral of at least `width` digits after `0x`. -/
def numeral (width n : Nat) : String :=
  "0x" ++ padded width n

end Chip8.Hex
