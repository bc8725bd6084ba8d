/-!
# The built-in glyphs

A glyph for each hexadecimal digit, four pixels wide and five rows high. Each
byte is a row with the leftmost pixel in its highest bit. The glyphs are stored
one after the other from address zero on.
-/

namespace Chip8.Font

/-- The number of rows, and so of bytes, of a glyph. -/
def glyphSize : Nat := 5

/-- The sixteen glyphs, `0` to `F`. -/
def glyphs : List UInt8 :=
  [ 0xF0, 0x90, 0x90, 0x90, 0xF0,
    0x20, 0x60, 0x20, 0x20, 0x70,
    0xF0, 0x10, 0xF0, 0x80, 0xF0,
    0xF0, 0x10, 0xF0, 0x10, 0xF0,
    0x90, 0x90, 0xF0, 0x10, 0x10,
    0xF0, 0x80, 0xF0, 0x10, 0xF0,
    0xF0, 0x80, 0xF0, 0x90, 0xF0,
    0xF0, 0x10, 0x20, 0x40, 0x40,
    0xF0, 0x90, 0xF0, 0x90, 0xF0,
    0xF0, 0x90, 0xF0, 0x10, 0xF0,
    0xF0, 0x90, 0xF0, 0x90, 0x90,
    0xE0, 0x90, 0xE0, 0x90, 0xE0,
    0xF0, 0x80, 0x80, 0x80, 0xF0,
    0xE0, 0x90, 0x90, 0x90, 0xE0,
    0xF0, 0x80, 0xF0, 0x80, 0xF0,
    0xF0, 0x80, 0xF0, 0x80, 0x80 ]

/-- The address of a digit's glyph. -/
def address (digit : Nat) : Nat :=
  digit * glyphSize

end Chip8.Font
