import Chip8.Random.Block

/-!
# A stream of random words

The words of block 0, then those of block 1, and so on. A stream keeps the words
of its current block that have not been handed out, and the number of the block to
produce once they run out. Block numbers wrap around at 2⁶⁴.
-/

namespace Chip8.Random

/-- A stream under a key. -/
structure Stream where
  key : StreamKey
  nextBlock : UInt64
  pending : List UInt32
  deriving DecidableEq, Repr

namespace Stream

/-- The stream of a key from its first word on. -/
def ofKey (key : StreamKey) : Stream :=
  ⟨key, 0, []⟩

/-- The stream of a seed. -/
def ofSeed (seed : UInt64) : Stream :=
  ofKey (keyOfSeed seed)

/-- Take the next word, producing a block when none is left. -/
def next (stream : Stream) : UInt32 × Stream :=
  match stream.pending with
  | word :: rest => (word, { stream with pending := rest })
  | [] =>
    let produced := block stream.key stream.nextBlock
    (produced[0],
      { stream with
        nextBlock := stream.nextBlock + 1
        pending := produced.toList.tail })

/-- Take the next word and keep its lowest byte. -/
def nextByte (stream : Stream) : UInt8 × Stream :=
  let (word, rest) := stream.next
  (word.toUInt8, rest)

end Stream

end Chip8.Random
