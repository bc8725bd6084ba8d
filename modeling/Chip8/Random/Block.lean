/-!
# Pseudo-random blocks

Blocks of sixteen words by the ChaCha20 function: four constants, a key of eight
words, a 64-bit block number and two zero words are stirred in ten double rounds
and added to themselves. A 64-bit seed is expanded to a key by a permuted linear
congruential generator.
-/

namespace Chip8.Random

/-- The eight key words of a stream. -/
abbrev StreamKey := Vector UInt32 8

/-- Sixteen words, the unit in which a stream is produced. -/
abbrev Block := Vector UInt32 16

/-- Rotate a word to the left. -/
def rotateLeft (word amount : UInt32) : UInt32 :=
  word <<< amount ||| word >>> (32 - amount)

/-- Rotate a word to the right. -/
def rotateRight (word amount : UInt32) : UInt32 :=
  word >>> amount ||| word <<< (32 - amount)

/-- Stir four words of a block: four times a sum, an exclusive disjunction and a
rotation. -/
def quarterRound (block : Block) (a b c d : Fin 16) : Block :=
  let a₁ := block.get a + block.get b
  let d₁ := rotateLeft (block.get d ^^^ a₁) 16
  let c₁ := block.get c + d₁
  let b₁ := rotateLeft (block.get b ^^^ c₁) 12
  let a₂ := a₁ + b₁
  let d₂ := rotateLeft (d₁ ^^^ a₂) 8
  let c₂ := c₁ + d₂
  let b₂ := rotateLeft (b₁ ^^^ c₂) 7
  (((block.set a.val a₂).set b.val b₂).set c.val c₂).set d.val d₂

/-- A place in a block, seen as four rows of four words; rows and columns wrap around. -/
def place (row column : Nat) : Fin 16 :=
  ⟨row % 4 * 4 + column % 4, by omega⟩

/-- Stir the four lines that go down a block and to the right by `slant` columns in
each row. -/
def stir (slant : Nat) (block : Block) : Block :=
  (List.range 4).foldl
    (fun block column =>
      quarterRound block (place 0 column) (place 1 (column + slant))
        (place 2 (column + 2 * slant)) (place 3 (column + 3 * slant)))
    block

/-- Stir the columns, then the diagonals. -/
def doubleRound (block : Block) : Block :=
  stir 1 (stir 0 block)

/-- What is stirred for a key and a block number. -/
def initialBlock (key : StreamKey) (number : UInt64) : Block :=
  #v[0x61707865, 0x3320646e, 0x79622d32, 0x6b206574,
    key[0], key[1], key[2], key[3], key[4], key[5], key[6], key[7],
    number.toUInt32, (number >>> 32).toUInt32, 0, 0]

/-- The block of a key with a given number. -/
def block (key : StreamKey) (number : UInt64) : Block :=
  let initial := initialBlock key number
  Vector.zipWith (· + ·) (Nat.repeat doubleRound 10 initial) initial

/-- The published first block of the zero key. -/
example : block (Vector.replicate 8 0) 0 =
    #v[0xade0b876, 0x903df1a0, 0xe56a5d40, 0x28bd8653, 0xb819d2bd, 0x1aed8da0, 0xccef36a8,
      0xc70d778b, 0x7c5941da, 0x8d485751, 0x3fe02477, 0x374ad8b8, 0xf4b8436a, 0x1ca11815,
      0x69b687c3, 0x8665eeb2] := by
  decide +kernel

/-- The next state of the seed expander. -/
def expand (state : UInt64) : UInt64 :=
  state * 6364136223846793005 + 11634580027462260723

/-- The word drawn from a state of the seed expander: 32 folded bits, rotated by
the highest five. -/
def expandedWord (state : UInt64) : UInt32 :=
  rotateRight (((state >>> 18 ^^^ state) >>> 27).toUInt32) (state >>> 59).toUInt32

/-- The key of a seed: word `k` is drawn after `k + 1` steps of the expander. -/
def keyOfSeed (seed : UInt64) : StreamKey :=
  Vector.ofFn fun word => expandedWord (Nat.repeat expand (word.val + 1) seed)

/-- The key of seed 7, word for word. -/
example : keyOfSeed 7 =
    #v[0x3b400cc8, 0x096c20d0, 0x6f3ba637, 0x1e254ff2, 0x1b2fbb3c, 0x5a5684b3, 0x1566a09a,
      0x3f201b0d] := by
  decide +kernel

end Chip8.Random
