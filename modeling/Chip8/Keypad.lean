import Chip8.Fault

/-!
# The hexadecimal keypad

Sixteen keys, numbered by the hexadecimal digit printed on them. `KeySet` is a
snapshot of which of them are held. A running program sees a `Keyboard`: a test
for a single key and a list of the held ones, which may be in any order and may
repeat a key.
-/

namespace Chip8

/-- A key, by its digit. -/
abbrev Key := Fin 16

namespace Key

/-- All keys, lowest first. -/
def all : List Key :=
  List.finRange 16

/-- The key of a byte; bytes above fifteen name none. -/
def ofByte (value : UInt8) : Except Fault Key :=
  if h : value.toNat < 16 then .ok ⟨value.toNat, h⟩ else .error (.invalidKey value)

/-- The one of two keys with the lower digit. -/
def lower (first second : Key) : Key :=
  if first.val ≤ second.val then first else second

/-- The digit of a key as a byte. -/
def toByte (key : Key) : UInt8 :=
  UInt8.ofNat key.val

/-- The name of a key: the ten digits are written after `Key`, the letters alone. -/
def name (key : Key) : String :=
  if key.val < 10 then "Key" ++ Hex.padded 1 key.val else Hex.padded 1 key.val

/-- The typewriter key in the place of each key, by the digit of the key:

```text
1 2 3 C        1 2 3 4
4 5 6 D        Q W E R
7 8 9 E        A S D F
A 0 B F        Z X C V
```
-/
def places : List Char :=
  ['x', '1', '2', '3', 'q', 'w', 'e', 'a', 's', 'd', 'z', 'c', '4', 'r', 'f', 'v']

/-- The key in whose place a typewriter has a character, whatever its case. -/
def ofQwerty (c : Char) : Option Key :=
  all.find? fun key => places[key.val]? == some c.toLower

end Key

/-- Which keys are held, one bit for each key. -/
structure KeySet where
  held : Vector Bool 16
  deriving DecidableEq, Repr

namespace KeySet

/-- No key is held. -/
def empty : KeySet :=
  ⟨Vector.replicate 16 false⟩

/-- Hold a key. -/
def press (keys : KeySet) (key : Key) : KeySet :=
  ⟨keys.held.set key.val true⟩

/-- Let a key go. -/
def release (keys : KeySet) (key : Key) : KeySet :=
  ⟨keys.held.set key.val false⟩

/-- Exactly the listed keys are held. -/
def ofList (keys : List Key) : KeySet :=
  keys.foldl press empty

/-- Bring every key in line with the listed ones, whatever was held before. -/
def update (_ : KeySet) (keys : List Key) : KeySet :=
  ofList keys

/-- Whether a key is held. -/
def isDown (keys : KeySet) (key : Key) : Bool :=
  keys.held.get key

/-- The held keys, lowest first. -/
def toList (keys : KeySet) : List Key :=
  Key.all.filter keys.isDown

end KeySet

/-- What a program can learn about the keys during one cycle. -/
structure Keyboard where
  isDown : Key → Bool
  held : List Key

namespace Keyboard

/-- The lowest of the held keys, found by going through the list once. -/
def lowest (keyboard : Keyboard) : Option Key :=
  match keyboard.held with
  | [] => none
  | first :: rest => some (rest.foldl Key.lower first)

/-- A keyboard that reports its keys in the given order, with any repeats. -/
def ofList (keys : List Key) : Keyboard :=
  ⟨fun key => keys.contains key, keys⟩

/-- No key is held. -/
def idle : Keyboard :=
  ofList []

end Keyboard

/-- The snapshot as a keyboard, lowest key first. -/
def KeySet.keyboard (keys : KeySet) : Keyboard :=
  ⟨keys.isDown, keys.toList⟩

end Chip8
