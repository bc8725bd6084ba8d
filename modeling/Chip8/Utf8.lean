/-!
# UTF-8

Texts as lists of bytes. Validity is decided byte by byte: after a leading byte,
each of the bytes still due has a range it must lie in. The ranges exclude
overlong forms, surrogates and values past the last code point.
-/

namespace Chip8.Utf8

/-- The bytes of a text. -/
def encode (text : String) : List UInt8 :=
  text.toList.flatMap String.utf8EncodeChar

/-- A range of bytes, with both ends. -/
abbrev Range := UInt8 × UInt8

/-- The range of a continuation byte that nothing else restricts. -/
def continuation : Range := (0x80, 0xBF)

/-- The ranges of the bytes that follow a first byte, if it can be one. -/
def following (byte : UInt8) : Option (List Range) :=
  if byte < 0x80 then some []
  else if byte < 0xC2 then none
  else if byte < 0xE0 then some [continuation]
  else if byte = 0xE0 then some [(0xA0, 0xBF), continuation]
  else if byte = 0xED then some [(0x80, 0x9F), continuation]
  else if byte < 0xF0 then some [continuation, continuation]
  else if byte = 0xF0 then some [(0x90, 0xBF), continuation, continuation]
  else if byte < 0xF4 then some [continuation, continuation, continuation]
  else if byte = 0xF4 then some [(0x80, 0x8F), continuation, continuation]
  else none

/-- Take one byte while the given ranges are due. -/
def step (due : List Range) (byte : UInt8) : Option (List Range) :=
  match due with
  | [] => following byte
  | (low, high) :: rest => if low ≤ byte ∧ byte ≤ high then some rest else none

/-- Whether a list of bytes is the encoding of some text. -/
def isValid (bytes : List UInt8) : Bool :=
  bytes.foldlM step [] == some []

end Chip8.Utf8
