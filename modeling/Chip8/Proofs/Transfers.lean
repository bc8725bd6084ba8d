import Chip8.Proofs.Opcodes
import Chip8.Proofs.Stores

/-!
# Moving registers to memory and back

`FX55` stores the registers from V0 on and `FX65` loads them, as many as the settings say, from
the index register on and around the end of memory. Both use the same count and the same cells,
and these cells are distinct, for there are at most sixteen. So each undoes the other once the
index register is set back, wherever it points and however it moves.
-/

namespace Chip8

namespace Memory

/-- Memory is what can be read from it. -/
theorem ext_read {first second : Memory}
    (same : ∀ address < 4096, first.read address = second.read address) : first = second := by
  obtain ⟨firstBytes⟩ := first
  obtain ⟨secondBytes⟩ := second
  congr 1
  apply Vector.ext
  intro address inside
  have equal := same address inside
  simp only [read, Nat.mod_eq_of_lt inside] at equal
  exact equal

section WriteMany

variable (memory : Memory) (start : Nat) {bytes : List UInt8} (short : bytes.length ≤ 4096)
include short

/-- A byte that was written as one of many is read back at its address. -/
theorem read_writeMany {offset : Nat} (within : offset < bytes.length) :
    (memory.writeMany start bytes).read (start + offset) = bytes[offset] := by
  have inside : (start + offset) % 4096 < 4096 := Nat.mod_lt _ (by decide)
  have distance : ((start + offset) % 4096 + (4096 - start % 4096)) % 4096 = offset := by omega
  rw [read_congr _ (Nat.mod_mod _ _).symm, writeMany_eq_put,
    read_put _ inside fun _ => Store.stretch_address_lt, Store.last?_stretch short inside,
    distance, List.getElem?_eq_getElem within, Option.getD_some]

/-- Where writing many bytes changes memory, one of them was written. -/
theorem written_of_read_ne {address : Nat} (inside : address < 4096)
    (changed : (memory.writeMany start bytes).read address ≠ memory.read address) :
    ∃ offset < bytes.length, address = (start + offset) % 4096 := by
  let offset := (address + (4096 - start % 4096)) % 4096
  have here : address = (start + offset) % 4096 := by omega
  by_cases within : offset < bytes.length
  · exact ⟨offset, within, here⟩
  · have absent : bytes[offset]? = none := List.getElem?_eq_none (by omega)
    have kept : (memory.writeMany start bytes).read address = memory.read address := by
      rw [writeMany_eq_put, read_put _ inside fun _ => Store.stretch_address_lt,
        Store.last?_stretch short inside, absent, Option.getD_none]
    exact absurd kept changed

/-- Writing bytes that are already there changes nothing. -/
theorem writeMany_unchanged
    (there : ∀ offset (within : offset < bytes.length),
      memory.read (start + offset) = bytes[offset]) :
    memory.writeMany start bytes = memory := by
  apply ext_read
  intro address inside
  by_contra changed
  obtain ⟨offset, within, rfl⟩ := written_of_read_ne memory start short inside changed
  rw [read_congr _ (Nat.mod_mod _ _), read_congr memory (Nat.mod_mod _ _)] at changed
  exact changed ((read_writeMany memory start short within).trans (there offset within).symm)

end WriteMany

end Memory

namespace Settings

/-- A transfer moves at most all sixteen registers. -/
theorem transferCount_le (settings : Settings) (x : Register) : settings.transferCount x ≤ 16 := by
  have bound : x.val < 16 := x.isLt
  unfold transferCount
  split <;> omega

/-- The index register after a transfer, as a number. -/
theorem indexAfter_toNat (settings : Settings) (index : UInt16) (count : Nat) :
    (settings.indexAfter index count).toNat =
      if settings.loadStoreIncrementsIndex then (index.toNat + count) % 65536
      else index.toNat := by
  unfold indexAfter
  split
  · rw [UInt16.toNat_add, UInt16.toNat_ofNat', Nat.add_mod_mod]
  · rfl

end Settings

namespace Machine

section Opcodes

variable (machine : Machine) {opcode : UInt16}

/-- `FX55` stores as many registers as the settings say. -/
theorem executes_store (bits : opcode &&& 0xF0FF = 0xF055) :
    machine.Executes opcode
      (machine.storeRegisters (machine.settings.transferCount (registerX opcode))) := by
  obtain ⟨-, listed⟩ := storing_listed
  exact executes_single machine listed rfl bits
    (fun x => machine.storeRegisters (machine.settings.transferCount x))
    fun instruction keyboard command => by simp only [execute, command]

/-- `FX65` loads as many registers as the settings say. -/
theorem executes_load (bits : opcode &&& 0xF0FF = 0xF065) :
    machine.Executes opcode
      (machine.loadRegisters (machine.settings.transferCount (registerX opcode))) := by
  have listed : (⟨.loadRegisters, 0xF0FF, 0xF065, [.x]⟩ : Row) ∈ instructionTable := by decide
  exact executes_single machine listed rfl bits
    (fun x => machine.loadRegisters (machine.settings.transferCount x))
    fun instruction keyboard command => by simp only [execute, command]

end Opcodes

/-- The registers below a count that is loaded are bytes of memory, the others stay. -/
theorem reg_loadRegisters (machine : Machine) (count : Nat) (register : Register) :
    (machine.loadRegisters count).reg register =
      if register.val < count then machine.memory.read (machine.index.toNat + register.val)
      else machine.reg register :=
  Vector.getElem_ofFn register.isLt

section Transfer

variable (machine between : Machine) {count : Nat} (bound : count ≤ 16)
  (setBack : between.index = machine.index)

/-- The bytes that are stored are the first registers. -/
theorem getElem_take_registers (register : Register)
    (within : register.val < (machine.registers.toList.take count).length) :
    (machine.registers.toList.take count)[register.val] = machine.reg register := by
  rw [List.getElem_take, Vector.getElem_toList]
  rfl

include bound

/-- As many registers are taken as are moved. -/
theorem length_take_registers : (machine.registers.toList.take count).length = count := by
  rw [List.length_take, Vector.length_toList]
  omega

include setBack

/-- Registers that were stored are loaded back. -/
theorem reg_load_stored (stored : between.memory = (machine.storeRegisters count).memory)
    (register : Register) :
    (between.loadRegisters count).reg register =
      if register.val < count then machine.reg register else between.reg register := by
  have length := machine.length_take_registers bound
  rw [reg_loadRegisters, stored, setBack]
  by_cases moved : register.val < count
  · have within : register.val < (machine.registers.toList.take count).length := length.symm ▸ moved
    rw [if_pos moved, if_pos moved, storeRegisters,
      Memory.read_writeMany _ _ (by omega) within, getElem_take_registers]
  · rw [if_neg moved, if_neg moved]

/-- Registers that were loaded are stored where they came from. -/
theorem memory_store_loaded (unchanged : between.memory = machine.memory)
    (loaded : between.registers = (machine.loadRegisters count).registers) :
    (between.storeRegisters count).memory = machine.memory := by
  have length := between.length_take_registers bound
  have same (register : Register) :
      between.reg register = (machine.loadRegisters count).reg register :=
    congrArg (·.get register) loaded
  rw [storeRegisters, unchanged, setBack]
  apply Memory.writeMany_unchanged _ _ (by omega)
  intro offset within
  obtain ⟨register, rfl⟩ : ∃ register : Register, register.val = offset :=
    ⟨⟨offset, by omega⟩, rfl⟩
  have moved : register.val < count := length ▸ within
  rw [getElem_take_registers, same, reg_loadRegisters, if_pos moved]

end Transfer

/-- Storing and loading undo each other. Let `FX55` and `FX65` name the same register, let `b` be
the index register and `n` the number of registers that the settings say. After `FX55` and any
change of the registers, with the index register set back, `FX65` gives the first `n` registers
the values they had before the `FX55` and leaves the others alone. After `FX65`, with the index
register set back, `FX55` leaves memory as it was before the `FX65`. An `FX55` changes memory at
most at the `n` addresses from `b` on, which are distinct modulo 4096. Either moves the index
register by `n` modulo 65536 if the settings say so, and otherwise leaves it alone.

Proof: both count offsets from the same start, and an offset below 16 can be recovered from its
address modulo 4096. So a stored byte is read back at its offset, and to store bytes where they
were loaded writes what is already there. -/
theorem transfers_inverse (machine : Machine) {storing loading : UInt16}
    (stores : storing &&& 0xF0FF = 0xF055) (loads : loading &&& 0xF0FF = 0xF065)
    (alike : registerX loading = registerX storing) :
    let b := machine.index.toNat
    let x := (registerX storing).val
    let n := if machine.settings.loadStoreInclusive then x + 1 else x
    let moved := if machine.settings.loadStoreIncrementsIndex then (b + n) % 65536 else b
    ∃ stored loaded, machine.Executes storing stored ∧ machine.Executes loading loaded ∧
      stored.index.toNat = moved ∧ loaded.index.toNat = moved ∧
      (∀ address < 4096, stored.memory.read address ≠ machine.memory.read address →
        ∃ i < n, address = (b + i) % 4096) ∧
      (∀ i < n, ∀ j < n, (b + i) % 4096 = (b + j) % 4096 → i = j) ∧
      (∀ between : Machine, between.memory = stored.memory →
        between.settings = machine.settings → between.index = machine.index →
        ∃ restored, between.Executes loading restored ∧
          ∀ register, restored.reg register =
            if register.val < n then machine.reg register else between.reg register) ∧
      (∀ between : Machine, between.memory = loaded.memory →
        between.registers = loaded.registers →
        between.settings = machine.settings → between.index = machine.index →
        ∃ rewritten, between.Executes storing rewritten ∧
          rewritten.memory = machine.memory) := by
  intro b x n moved
  have bound : n ≤ 16 := machine.settings.transferCount_le (registerX storing)
  have length := machine.length_take_registers bound
  have storesExactly (start : Machine) (settings : start.settings = machine.settings) :
      start.Executes storing (start.storeRegisters n) := by
    have executed := start.executes_store stores
    rwa [settings] at executed
  have loadsExactly (start : Machine) (settings : start.settings = machine.settings) :
      start.Executes loading (start.loadRegisters n) := by
    have executed := start.executes_load loads
    rwa [settings, alike] at executed
  refine ⟨machine.storeRegisters n, machine.loadRegisters n, storesExactly machine rfl,
    loadsExactly machine rfl, machine.settings.indexAfter_toNat machine.index n,
    machine.settings.indexAfter_toNat machine.index n, ?_, ?_, ?_, ?_⟩
  · intro address inside changed
    have written := Memory.written_of_read_ne _ _ (by omega) inside changed
    rwa [length] at written
  · intro i iBound j jBound same
    omega
  · intro between memory settings setBack
    exact ⟨_, loadsExactly between settings,
      reg_load_stored machine between bound setBack memory⟩
  · intro between memory registers settings setBack
    exact ⟨_, storesExactly between settings,
      memory_store_loaded machine between bound setBack memory registers⟩

/-- A machine with all switches on, the index register at its largest value and 200 in the flag
register. -/
def atLastIndex : Machine :=
  { (boot .legacy 0 (Vector.replicate 8 0)).setReg flag 200 with index := 0xFFFF }

/-- All sixteen registers go around the end of memory and come back after they were cleared; the
index register wraps around as well. -/
theorem registers_around_end :
    ((0xFF55 : UInt16) &&& 0xF0FF = 0xF055 ∧ (0xFF65 : UInt16) &&& 0xF0FF = 0xF065 ∧
      registerX 0xFF65 = registerX 0xFF55) ∧
    ∃ stored, atLastIndex.Executes 0xFF55 stored ∧ stored.index.toNat = 15 ∧
      let cleared :=
        { atLastIndex with memory := stored.memory, registers := Vector.replicate 16 0 }
      ∃ restored, cleared.Executes 0xFF65 restored ∧ restored.reg flag = 200 := by
  have stores : (0xFF55 : UInt16) &&& 0xF0FF = 0xF055 := by decide
  have loads : (0xFF65 : UInt16) &&& 0xF0FF = 0xF065 := by decide
  have alike : registerX 0xFF65 = registerX 0xFF55 := by decide
  obtain ⟨stored, -, executed, -, moved, -, -, -, restores, -⟩ :=
    transfers_inverse atLastIndex stores loads alike
  refine ⟨⟨stores, loads, alike⟩, stored, executed, moved, ?_⟩
  intro cleared
  obtain ⟨restored, loaded, values⟩ := restores cleared rfl rfl rfl
  exact ⟨restored, loaded, (values flag).trans rfl⟩

end Machine

end Chip8
