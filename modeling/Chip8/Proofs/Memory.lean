import Chip8.Memory

/-!
# Addresses and words in memory

An address counts only modulo the size of memory, for single bytes and for stretches
that run past the end. The value of a word in terms of its two bytes.
-/

namespace Chip8.Memory

/-- Reading depends on the address only up to multiples of the size of memory. -/
theorem read_congr (memory : Memory) {first second : Nat}
    (same : first % 4096 = second % 4096) : memory.read first = memory.read second := by
  simp only [read, same]

/-- So does writing. -/
theorem write_congr (memory : Memory) (value : UInt8) {first second : Nat}
    (same : first % 4096 = second % 4096) :
    memory.write first value = memory.write second value := by
  simp only [write, same]

/-- A byte that was written reads as written, from every address that names it. -/
theorem read_write (memory : Memory) (address other : Nat) (value : UInt8) :
    (memory.write address value).read other =
      if address % 4096 = other % 4096 then value else memory.read other :=
  Vector.getElem_set (Nat.mod_lt _ (by decide)) (Nat.mod_lt _ (by decide))

/-- Stretches that begin at the same byte hold the same bytes, wherever they wrap. -/
theorem readMany_congr (memory : Memory) (count : Nat) {first second : Nat}
    (same : first % 4096 = second % 4096) :
    memory.readMany first count = memory.readMany second count := by
  apply List.map_congr_left
  intro offset _
  exact memory.read_congr (by omega)

/-- Storing from the same byte on stores the same memory, wherever the addresses wrap. -/
theorem writeMany_congr (memory : Memory) (values : List UInt8) {first second : Nat}
    (same : first % 4096 = second % 4096) :
    memory.writeMany first values = memory.writeMany second values := by
  induction values generalizing memory first second with
  | nil => rfl
  | cons value rest inductionHypothesis =>
    rw [writeMany, writeMany, memory.write_congr value same]
    exact inductionHypothesis _ (by omega)

/-- So does reading a word. -/
theorem word_congr (memory : Memory) {first second : Nat}
    (same : first % 4096 = second % 4096) : memory.word first = memory.word second := by
  have next : (first + 1) % 4096 = (second + 1) % 4096 := by omega
  rw [word, word, memory.read_congr same, memory.read_congr next]

/-- A word is made of two bytes, the higher first. -/
theorem word_toNat (memory : Memory) (address : Nat) :
    (memory.word address).toNat =
      256 * (memory.read address).toNat + (memory.read (address + 1)).toNat := by
  have high : (memory.read address).toNat < 256 := UInt8.toNat_lt _
  have low : (memory.read (address + 1)).toNat < 2 ^ 8 := UInt8.toNat_lt _
  have shifted : (memory.read address).toNat <<< 8 = 256 * (memory.read address).toNat := by
    rw [Nat.shiftLeft_eq]
    omega
  calc (memory.word address).toNat
    _ = (memory.read address).toNat <<< 8 % 2 ^ 16 ||| (memory.read (address + 1)).toNat := by
      simp only [word, UInt16.toNat_or, UInt16.toNat_shiftLeft, UInt8.toNat_toUInt16]
      rfl
    _ = (memory.read address).toNat <<< 8 ||| (memory.read (address + 1)).toNat := by
      rw [Nat.mod_eq_of_lt (by omega)]
    _ = 256 * (memory.read address).toNat + (memory.read (address + 1)).toNat := by
      rw [← Nat.shiftLeft_add_eq_or_of_lt low, shifted]

end Chip8.Memory
