import Mathlib.Data.List.Induction
import Chip8.Proofs.Memory
import Chip8.Proofs.Waiting

/-!
# What memory holds

Every byte of memory is the one last put at its address. Of all that can happen to a
machine three things put bytes into memory: loading a program that fits, `FX33` and `FX55`.
A run is therefore seen here as the list of what it has put where, and memory is read off
that list: the last entry for an address counts, and without one the byte the machine was
built with. The list is made from the bits of the completed opcodes, and from the registers
as they were before them.
-/

namespace Chip8

/-- A byte put at an address. -/
structure Store where
  address : Nat
  byte : UInt8
  deriving DecidableEq, Repr

namespace Store

/-- Bytes put from an address on, around the end of memory. -/
def stretch (start : Nat) (bytes : List UInt8) : List Store :=
  bytes.mapIdx fun offset byte => ⟨(start + offset) % 4096, byte⟩

/-- The byte last put at an address, if any was. -/
def last? (stores : List Store) (address : Nat) : Option UInt8 :=
  (stores.reverse.find? (·.address == address)).map Store.byte

/-- The first byte of a stretch goes to its start, the others from the next address on. -/
theorem stretch_cons (start : Nat) (byte : UInt8) (bytes : List UInt8) :
    stretch start (byte :: bytes) = ⟨start % 4096, byte⟩ :: stretch (start + 1) bytes := by
  simp only [stretch, List.mapIdx_cons, Nat.add_zero, Nat.add_assoc, Nat.add_comm 1]

/-- Where nothing runs past the end of memory the addresses are simply counted up. -/
theorem stretch_eq {start : Nat} {bytes : List UInt8} (inside : start + bytes.length ≤ 4096) :
    stretch start bytes = bytes.mapIdx fun offset byte => ⟨start + offset, byte⟩ := by
  apply List.mapIdx_eq_mapIdx_iff.mpr
  intro offset bound
  have unwrapped : (start + offset) % 4096 = start + offset := Nat.mod_eq_of_lt (by omega)
  rw [unwrapped]

/-- The addresses of a stretch are wrapped. -/
theorem stretch_address_lt {start : Nat} {bytes : List UInt8} {store : Store}
    (member : store ∈ stretch start bytes) : store.address < 4096 := by
  obtain ⟨offset, bound, rfl⟩ := List.mem_mapIdx.mp member
  exact Nat.mod_lt _ (by decide)

/-- The last entry of a list decides about its address and no other. -/
theorem last?_append (stores : List Store) (store : Store) (address : Nat) :
    last? (stores ++ [store]) address =
      if store.address = address then some store.byte else last? stores address := by
  by_cases same : store.address = address <;> simp [last?, same]

/-- The first entry of a list counts only where no later one has its address. -/
theorem last?_cons (store : Store) (stores : List Store) (address : Nat) :
    last? (store :: stores) address =
      (last? stores address).or (if store.address = address then some store.byte else none) := by
  by_cases same : store.address = address <;>
    simp [last?, List.find?_append, same]

/-- A stretch no longer than memory puts at most one byte at each address: the one whose
offset is the distance of the address from its start, around the end of memory. -/
theorem last?_stretch {start address : Nat} {bytes : List UInt8} (short : bytes.length ≤ 4096)
    (inside : address < 4096) :
    last? (stretch start bytes) address = bytes[(address + (4096 - start % 4096)) % 4096]? := by
  induction bytes generalizing start with
  | nil => simp [stretch, last?]
  | cons byte rest inductionHypothesis =>
    have shorter : rest.length < 4096 := short
    rw [stretch_cons, last?_cons, inductionHypothesis (by omega)]
    by_cases first : start % 4096 = address
    · have here : (address + (4096 - start % 4096)) % 4096 = 0 := by omega
      have around : (address + (4096 - (start + 1) % 4096)) % 4096 = 4095 := by omega
      have absent : rest[4095]? = none := List.getElem?_eq_none (by omega)
      rw [if_pos first, here, around, absent, List.getElem?_cons_zero, Option.none_or]
    · have further : (address + (4096 - start % 4096)) % 4096 =
          (address + (4096 - (start + 1) % 4096)) % 4096 + 1 := by omega
      rw [if_neg first, further, List.getElem?_cons_succ, Option.or_none]

end Store

namespace Memory

/-- Memory with bytes put into it, in order. -/
def put (memory : Memory) (stores : List Store) : Memory :=
  stores.foldl (fun memory store => memory.write store.address store.byte) memory

/-- What is put in two parts is put in order. -/
theorem put_append (memory : Memory) (earlier later : List Store) :
    memory.put (earlier ++ later) = (memory.put earlier).put later :=
  List.foldl_append

/-- Writing many bytes puts them one by one. -/
theorem writeMany_eq_put (memory : Memory) (start : Nat) (bytes : List UInt8) :
    memory.writeMany start bytes = memory.put (Store.stretch start bytes) := by
  induction bytes generalizing memory start with
  | nil => rfl
  | cons byte rest inductionHypothesis =>
    rw [writeMany, inductionHypothesis, Store.stretch_cons]
    exact congrArg (·.put (Store.stretch (start + 1) rest))
      (memory.write_congr byte (Nat.mod_mod start 4096).symm)

/-- A byte reads as it was last put. -/
theorem read_put (memory : Memory) {stores : List Store} {address : Nat}
    (inside : address < 4096) (within : ∀ store ∈ stores, store.address < 4096) :
    (memory.put stores).read address =
      (Store.last? stores address).getD (memory.read address) := by
  induction stores using List.reverseRecOn with
  | nil => rfl
  | append_singleton earlier store inductionHypothesis =>
    obtain ⟨earlierWithin, storeWithin⟩ := List.forall_mem_append.mp within
    have bound : store.address < 4096 := storeWithin store (List.mem_singleton_self store)
    rw [put_append, Store.last?_append]
    simp only [put, List.foldl_cons, List.foldl_nil] at inductionHypothesis ⊢
    rw [read_write, Nat.mod_eq_of_lt bound, Nat.mod_eq_of_lt inside,
      inductionHypothesis earlierWithin]
    split <;> rfl

/-- At the beginning the glyphs stand in the first eighty bytes and all else is zero. -/
theorem read_initial {address : Nat} (inside : address < 4096) :
    initial.read address = if address < 80 then Font.glyphs.getD address 0 else 0 := by
  have count : Font.glyphs.length = 80 := by decide
  have distance : (address + (4096 - 0 % 4096)) % 4096 = address := by omega
  have zero : (⟨Vector.replicate 4096 0⟩ : Memory).read address = 0 :=
    Vector.getElem_replicate (Nat.mod_lt _ (by decide))
  rw [initial, writeMany_eq_put, read_put _ inside fun _ => Store.stretch_address_lt,
    Store.last?_stretch (by omega) inside, distance, zero]
  split
  · exact (List.getD_eq_getElem?_getD).symm
  · next behind => rw [List.getElem?_eq_none (by omega), Option.getD_none]

end Memory

/-- What a moment puts into memory, in order: an accepted program from `0x200` on, and from
the index register on the three digits of VX for a completed `FX33`, or the first registers
for a completed `FX55`, VX among them only if the settings include it. -/
def Moment.stores (moment : Moment) : List Store :=
  match moment.executed, moment.action with
  | some instruction, _ =>
    let x := registerX instruction.opcode
    let index := moment.before.index.toNat
    if instruction.opcode &&& 0xF0FF = 0xF033 then
      Store.stretch index (Machine.decimalDigits (moment.before.reg x))
    else if instruction.opcode &&& 0xF0FF = 0xF055 then
      let count := if moment.before.settings.loadStoreInclusive then x.val + 1 else x.val
      Store.stretch index (moment.before.registers.toList.take count)
    else []
  | none, .load program =>
    if program.length ≤ Memory.programSize then Store.stretch Memory.programStart program else []
  | none, _ => []

/-- Whatever a moment puts into memory, it puts at a wrapped address. -/
theorem Moment.store_address_lt {moment : Moment} {store : Store}
    (member : store ∈ moment.stores) : store.address < 4096 := by
  unfold stores at member
  split at member
  · dsimp only at member
    split at member
    · exact Store.stretch_address_lt member
    · split at member
      · exact Store.stretch_address_lt member
      · cases member
  · split at member
    · exact Store.stretch_address_lt member
    · cases member
  · cases member

/-- The decimal digits of a byte are digits, and they are those of the byte. -/
theorem Machine.decimalDigits_eq (value : UInt8) :
    ∃ hundreds tens ones : UInt8,
      hundreds.toNat ≤ 9 ∧ tens.toNat ≤ 9 ∧ ones.toNat ≤ 9 ∧
      100 * hundreds.toNat + 10 * tens.toNat + ones.toNat = value.toNat ∧
      decimalDigits value = [hundreds, tens, ones] := by
  have bound : value.toNat < 256 := value.toNat_lt
  refine ⟨value / 100, value / 10 % 10, value % 10, ?_⟩
  simp only [UInt8.toNat_div, UInt8.toNat_mod, UInt8.reduceToNat]
  exact ⟨by omega, by omega, by omega, by omega, rfl⟩

namespace Moment

variable {moment : Moment} {instruction : Instruction}
  (executed : moment.executed = some instruction)
include executed

/-- What a completed `FX33` puts are the decimal digits of VX, from the index register on. -/
theorem stores_decimal (bits : instruction.opcode &&& 0xF0FF = 0xF033) :
    moment.stores = Store.stretch moment.before.index.toNat
      (Machine.decimalDigits (moment.before.reg (registerX instruction.opcode))) := by
  simp only [stores, executed, bits, if_true]

/-- What a completed `FX33` puts are three digits, those of VX. -/
theorem stores_digits (bits : instruction.opcode &&& 0xF0FF = 0xF033) :
    let index := moment.before.index.toNat
    ∃ hundreds tens ones : UInt8,
      hundreds.toNat ≤ 9 ∧ tens.toNat ≤ 9 ∧ ones.toNat ≤ 9 ∧
      100 * hundreds.toNat + 10 * tens.toNat + ones.toNat =
        (moment.before.reg (registerX instruction.opcode)).toNat ∧
      moment.stores = [⟨index % 4096, hundreds⟩, ⟨(index + 1) % 4096, tens⟩,
        ⟨(index + 2) % 4096, ones⟩] := by
  intro index
  obtain ⟨hundreds, tens, ones, h, t, o, sum, digits⟩ :=
    Machine.decimalDigits_eq (moment.before.reg (registerX instruction.opcode))
  refine ⟨hundreds, tens, ones, h, t, o, sum, ?_⟩
  rw [stores_decimal executed bits, digits]
  rfl

/-- What a completed `FX55` puts are the first registers, from the index register on. -/
theorem stores_registers (bits : instruction.opcode &&& 0xF0FF = 0xF055) :
    let x := registerX instruction.opcode
    let count := if moment.before.settings.loadStoreInclusive then x.val + 1 else x.val
    moment.stores =
      Store.stretch moment.before.index.toNat (moment.before.registers.toList.take count) := by
  have other : ¬ (0xF055 : UInt16) = 0xF033 := by decide
  simp only [stores, executed, bits, other, if_false, if_true]

/-- No other completed opcode puts anything into memory. -/
theorem stores_other (noDigits : instruction.opcode &&& 0xF0FF ≠ 0xF033)
    (noRegisters : instruction.opcode &&& 0xF0FF ≠ 0xF055) : moment.stores = [] := by
  simp only [stores, executed, noDigits, noRegisters, if_false]

end Moment

namespace Machine

/-- A program is put into memory if it fits; otherwise nothing is put anywhere. -/
theorem act_load_stores (machine : Machine) (program : List UInt8) :
    (machine.act (.load program)).stores =
      if program.length ≤ Memory.programSize then Store.stretch Memory.programStart program
      else [] := by
  have idle : (machine.act (.load program)).executed = none := by
    rw [Moment.executed, answer_load]
  simp only [Moment.stores, idle, act_action]

/-- Neither pausing nor presenting puts anything into memory, nor does a cycle that completes
no `FX33` and no `FX55`. -/
theorem act_other_stores {machine : Machine} {action : Action}
    (noLoad : ∀ program, (machine.act action).action ≠ .load program)
    (other : ∀ instruction, (machine.act action).executed = some instruction →
      instruction.opcode &&& 0xF0FF ≠ 0xF033 ∧ instruction.opcode &&& 0xF0FF ≠ 0xF055) :
    (machine.act action).stores = [] := by
  cases completed : (machine.act action).executed with
  | some instruction =>
    obtain ⟨noDigits, noRegisters⟩ := other instruction completed
    exact Moment.stores_other completed noDigits noRegisters
  | none =>
    cases action with
    | load program => exact absurd (act_action machine _) (noLoad program)
    | cycle | pause | present => simp only [Moment.stores, completed, act_action]

/-- The two rows of the table whose instructions write to memory. -/
theorem storing_listed :
    (⟨.storeDecimal, 0xF0FF, 0xF033, [.x]⟩ : Row) ∈ instructionTable ∧
      (⟨.storeRegisters, 0xF0FF, 0xF055, [.x]⟩ : Row) ∈ instructionTable := by decide

/-- Every action of a machine that waits for nothing but decoded key waits puts into memory
what its moment says, and nothing else. -/
theorem act_memory (machine : Machine) (action : Action) (sound : machine.WaitsDecoded) :
    (machine.act action).after.memory = machine.memory.put (machine.act action).stores := by
  obtain ⟨decimal, registers⟩ := storing_listed
  cases action with
  | cycle keyboard now =>
    obtain ⟨transition, course, acted⟩ := act_course machine keyboard now
    rw [acted]
    cases course with
    | halted | waiting | unknown | refused | blocked => rfl
    | resumed instruction key running awaited pressed =>
      obtain ⟨decoded, awaits⟩ := sound instruction awaited
      have noDigits := mt (Instruction.command_iff decimal decoded).mpr (by simp [awaits])
      have noRegisters := mt (Instruction.command_iff registers decoded).mpr (by simp [awaits])
      rw [Moment.stores_other rfl noDigits noRegisters]
      exact (sameCore_finish _ now.counted .next).memory
    | executed instruction after flow running free decoded done moves =>
      have opcode := Instruction.opcode_of_decode decoded
      have digits := opcode ▸ Instruction.command_iff decimal decoded
      have transfers := opcode ▸ Instruction.command_iff registers decoded
      have stored := (sameCore_finish after now.counted flow).memory.trans (execute_memory done)
      split at stored
      next command =>
        have register := Instruction.x_of_decode decimal rfl decoded command
        rw [stored, Moment.stores_decimal rfl (digits.mp command), opcode, register,
          Memory.writeMany_eq_put]
      next command =>
        have register := Instruction.x_of_decode registers rfl decoded command
        rw [stored, Moment.stores_registers rfl (transfers.mp command), opcode, register,
          Memory.writeMany_eq_put]
        rfl
      next noDigits noRegisters =>
        rw [stored, Moment.stores_other rfl (mt digits.mpr noDigits) (mt transfers.mpr noRegisters)]
        rfl
  | load program =>
    rw [after_load, act_load_stores]
    split
    · exact Memory.writeMany_eq_put _ _ _
    · rfl
  | pause => rfl
  | present => rfl

section Runs

variable (settings : Settings) (now : Instant) (entropy : Random.StreamKey)

/-- Memory after a run is the initial memory with the bytes of all moments put into it. -/
theorem run_memory (actions : List Action) :
    ((boot settings now entropy).run actions).memory =
      Memory.initial.put (((boot settings now entropy).history actions).flatMap Moment.stores) := by
  induction actions using List.reverseRecOn with
  | nil => rfl
  | append_singleton earlier action inductionHypothesis =>
    have stored := act_memory _ action (run_waitsDecoded settings now entropy earlier)
    rw [inductionHypothesis] at stored
    rw [run_append, history_append, List.flatMap_append, Memory.put_append]
    simpa only [run, history, List.flatMap_singleton] using stored

end Runs

/-- Memory is exactly the history of what was put into it. In every run from its
construction, of whatever actions, the byte at an address is the one last put there, or the
one of the glyphs, zero behind them, if there is none. A program of at most 3584 bytes is put
from `0x200` on, and nothing else, so that it leaves the tail of a longer one before it in
place; a longer program is refused with its length and changes nothing at all. A completed
`FX33` puts three decimal digits that make up VX at the index register and the two addresses
behind it, a completed `FX55` the registers below its count, all modulo 4096 and all as they
were before the instruction. No other moment puts anything, and none changes memory but by
what it puts.

Proof: each action puts what its moment says, instruction by instruction; so a run puts what
its moments say in their order, by induction on its actions, and a byte reads as it was last
put. -/
theorem memory_last_stored (settings : Settings) (now : Instant) (entropy : Random.StreamKey)
    (actions : List Action) :
    let machine := (boot settings now entropy).run actions
    let history := (boot settings now entropy).history actions
    (∀ address < 4096, machine.memory.read address =
      (Store.last? (history.flatMap Moment.stores) address).getD
        (if address < 80 then Font.glyphs.getD address 0 else 0)) ∧
    ∀ moment ∈ history,
      (∀ program, moment.action = .load program →
        (program.length ≤ 3584 → moment.answer = .loaded none ∧
          moment.stores = program.mapIdx fun offset byte => ⟨0x200 + offset, byte⟩) ∧
        (3584 < program.length →
          moment.answer = .loaded (some (.programTooLarge program.length 3584)) ∧
          moment.stores = [] ∧ moment.after = moment.before)) ∧
      (∀ instruction, moment.executed = some instruction →
        let x := registerX instruction.opcode
        let index := moment.before.index.toNat
        (instruction.opcode &&& 0xF0FF = 0xF033 → ∃ hundreds tens ones : UInt8,
          hundreds.toNat ≤ 9 ∧ tens.toNat ≤ 9 ∧ ones.toNat ≤ 9 ∧
          100 * hundreds.toNat + 10 * tens.toNat + ones.toNat = (moment.before.reg x).toNat ∧
          moment.stores = [⟨index % 4096, hundreds⟩, ⟨(index + 1) % 4096, tens⟩,
            ⟨(index + 2) % 4096, ones⟩]) ∧
        (instruction.opcode &&& 0xF0FF = 0xF055 →
          let count := if moment.before.settings.loadStoreInclusive then x.val + 1 else x.val
          moment.stores = (moment.before.registers.toList.take count).mapIdx
            fun offset byte => ⟨(index + offset) % 4096, byte⟩)) ∧
      ((∀ program, moment.action ≠ .load program) →
        (∀ instruction, moment.executed = some instruction →
          instruction.opcode &&& 0xF0FF ≠ 0xF033 ∧ instruction.opcode &&& 0xF0FF ≠ 0xF055) →
        moment.stores = []) ∧
      moment.after.memory = moment.before.memory.put moment.stores := by
  intro machine history
  refine ⟨?_, ?_⟩
  · intro address inside
    have within : ∀ store ∈ history.flatMap Moment.stores, store.address < 4096 := by
      intro store member
      obtain ⟨moment, -, put⟩ := List.mem_flatMap.mp member
      exact Moment.store_address_lt put
    rw [← Memory.read_initial inside, ← Memory.read_put _ inside within]
    exact congrArg (·.read address) (run_memory settings now entropy actions)
  · intro moment member
    obtain ⟨done, action, rfl⟩ := act_of_mem_history member
    refine ⟨?_, ?_, ?_, ?_⟩
    · intro program loads
      obtain rfl : action = .load program := (act_action _ action).symm.trans loads
      constructor
      · intro fits
        have accepted : program.length ≤ Memory.programSize := fits
        rw [answer_load, act_load_stores, if_pos accepted, if_pos accepted]
        exact ⟨rfl, Store.stretch_eq (by simp only [Memory.programStart]; omega)⟩
      · intro large
        have refused : ¬ program.length ≤ Memory.programSize := Nat.not_le_of_lt large
        rw [answer_load, act_load_stores, after_load, act_before, if_neg refused, if_neg refused,
          if_neg refused]
        exact ⟨rfl, rfl, rfl⟩
    · intro instruction executed x index
      exact ⟨Moment.stores_digits executed, Moment.stores_registers executed⟩
    · intro noLoad other
      exact act_other_stores noLoad other
    · rw [act_before]
      exact act_memory _ action (run_waitsDecoded settings now entropy done)

/-- Load eight bytes and then six, `60FE`, `AFFE` and `F033`, and execute these. -/
def digitsAtTheEnd : List Action :=
  [.load (List.replicate 8 0xAB), .load [0x60, 0xFE, 0xAF, 0xFE, 0xF0, 0x33],
    .cycle .idle (.still 0), .cycle .idle (.still 0), .cycle .idle (.still 0)]

/-- The digits of 254 fill the last two bytes of memory and then the first one, which belongs
to a glyph; the second byte of the glyph is as it was, and so is the tail of the longer
program. -/
theorem digits_wrap_into_glyphs :
    let machine := (boot {} 0 (Vector.replicate 8 0)).run digitsAtTheEnd
    (machine.memory.read 0xFFE = 2 ∧ machine.memory.read 0xFFF = 5 ∧ machine.memory.read 0 = 4) ∧
      machine.memory.read 1 = 0x90 ∧ machine.memory.read 0x206 = 0xAB := by
  intro machine
  obtain ⟨reads, -⟩ := memory_last_stored {} 0 (Vector.replicate 8 0) digitsAtTheEnd
  rw [reads 0xFFE (by decide), reads 0xFFF (by decide), reads 0 (by decide), reads 1 (by decide),
    reads 0x206 (by decide)]
  decide +kernel

end Machine

end Chip8
