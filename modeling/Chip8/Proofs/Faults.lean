import Chip8.Proofs.Cycle
import Chip8.Proofs.Decoding
import Chip8.Proofs.Memory

/-!
# Faults

When a cycle fails is decided by the machine alone: by the bits of the opcode at the
program counter, the depth of the call stack and one register. The keys held and the
time have no part in it. A cycle that fails changes nothing but the halted state: an
unknown opcode is not executed, and every instruction that fails does so before its
first write.
-/

namespace Chip8.Machine

/-- The faults at the program counter, by the bits of the opcode there. -/
inductive Faulting (machine : Machine) : Fault → Prop where
  /-- The opcode belongs to no row of the instruction table. -/
  | unknown (unlisted : ∀ row ∈ instructionTable, row.accepts machine.fetch = false) :
      Faulting machine (.unknownOpcode machine.fetch)
  /-- `00EE` while no return address is stored. -/
  | underflow (returns : machine.fetch = 0x00EE) (vacant : machine.stack.depth = 0) :
      Faulting machine .stackUnderflow
  /-- `2NNN` while all sixteen return addresses are taken. -/
  | overflow (calls : machine.fetch &&& 0xF000 = 0x2000) (full : machine.stack.depth = 16) :
      Faulting machine .stackOverflow
  /-- `EX9E` or `EXA1` on a value above fifteen. -/
  | key (tests : machine.fetch &&& 0xF0FF = 0xE09E ∨ machine.fetch &&& 0xF0FF = 0xE0A1)
      (outside : 15 < (machine.reg (registerX machine.fetch)).toNat) :
      Faulting machine (.invalidKey (machine.reg (registerX machine.fetch)))
  /-- `FX29` on a value above fifteen. -/
  | glyph (points : machine.fetch &&& 0xF0FF = 0xF029)
      (outside : 15 < (machine.reg (registerX machine.fetch)).toNat) :
      Faulting machine (.noGlyph (machine.reg (registerX machine.fetch)))

/-- A mask of sixteen set bits fixes the whole word. -/
theorem and_full (word : UInt16) : word &&& 0xFFFF = word := by
  apply UInt16.toNat_inj.mp
  rw [UInt16.toNat_and]
  exact Nat.and_two_pow_sub_one_of_lt_two_pow word.toNat_lt

/-- The faults by bits are those of decoding and those of the decoded instruction. -/
theorem faulting_iff (machine : Machine) (fault : Fault) :
    machine.Faulting fault ↔
      Instruction.decode machine.fetch = .error fault ∨
        ∃ instruction, Instruction.decode machine.fetch = .ok instruction ∧
          machine.Refused instruction fault := by
  have returning : (⟨.returnFromCall, 0xFFFF, 0x00EE, []⟩ : Row) ∈ instructionTable := by decide
  have calling : (⟨.call, 0xF000, 0x2000, [.address]⟩ : Row) ∈ instructionTable := by decide
  have pressed : (⟨.skipIfKey, 0xF0FF, 0xE09E, [.x]⟩ : Row) ∈ instructionTable := by decide
  have released : (⟨.skipUnlessKey, 0xF0FF, 0xE0A1, [.x]⟩ : Row) ∈ instructionTable := by decide
  have pointing : (⟨.setGlyph, 0xF0FF, 0xF029, [.x]⟩ : Row) ∈ instructionTable := by decide
  constructor
  · intro faulting
    cases faulting with
    | unknown unlisted => exact .inl (Instruction.decode_eq_error_iff.mpr ⟨rfl, unlisted⟩)
    | underflow returns vacant =>
      obtain ⟨instruction, decoded, command⟩ :=
        (Instruction.decodes_iff returning machine.fetch).mpr ((and_full _).trans returns)
      exact .inr ⟨instruction, decoded, .underflow command vacant⟩
    | overflow calls full =>
      obtain ⟨instruction, decoded, command⟩ :=
        (Instruction.decodes_iff calling machine.fetch).mpr calls
      exact .inr ⟨instruction, decoded, .overflow command full⟩
    | key tests outside =>
      rcases tests with tests | tests
      · obtain ⟨instruction, decoded, command⟩ :=
          (Instruction.decodes_iff pressed machine.fetch).mpr tests
        have same := Instruction.x_of_decode pressed rfl decoded command
        rw [← same] at outside ⊢
        exact .inr ⟨instruction, decoded, .key (.inl command) outside⟩
      · obtain ⟨instruction, decoded, command⟩ :=
          (Instruction.decodes_iff released machine.fetch).mpr tests
        have same := Instruction.x_of_decode released rfl decoded command
        rw [← same] at outside ⊢
        exact .inr ⟨instruction, decoded, .key (.inr command) outside⟩
    | glyph points outside =>
      obtain ⟨instruction, decoded, command⟩ :=
        (Instruction.decodes_iff pointing machine.fetch).mpr points
      have same := Instruction.x_of_decode pointing rfl decoded command
      rw [← same] at outside ⊢
      exact .inr ⟨instruction, decoded, .glyph command outside⟩
  · rintro (undecoded | ⟨instruction, decoded, refused⟩)
    · obtain ⟨rfl, unlisted⟩ := Instruction.decode_eq_error_iff.mp undecoded
      exact .unknown unlisted
    · cases refused with
      | underflow returns vacant =>
        have bits := (Instruction.decodes_iff returning machine.fetch).mp
          ⟨instruction, decoded, returns⟩
        exact .underflow ((and_full _).symm.trans bits) vacant
      | overflow calls full =>
        have bits := (Instruction.decodes_iff calling machine.fetch).mp
          ⟨instruction, decoded, calls⟩
        exact .overflow bits full
      | key tests outside =>
        rcases tests with tests | tests
        · have bits := (Instruction.decodes_iff pressed machine.fetch).mp
            ⟨instruction, decoded, tests⟩
          rw [Instruction.x_of_decode pressed rfl decoded tests] at outside ⊢
          exact .key (.inl bits) outside
        · have bits := (Instruction.decodes_iff released machine.fetch).mp
            ⟨instruction, decoded, tests⟩
          rw [Instruction.x_of_decode released rfl decoded tests] at outside ⊢
          exact .key (.inr bits) outside
      | glyph points outside =>
        have bits := (Instruction.decodes_iff pointing machine.fetch).mp
          ⟨instruction, decoded, points⟩
        rw [Instruction.x_of_decode pointing rfl decoded points] at outside ⊢
        exact .glyph bits outside

/-- A cycle fails exactly on a running machine that does not wait and whose opcode
cannot be decoded or is refused. -/
theorem cycle_eq_error_iff (machine : Machine) (keyboard : Keyboard) (now : Readings)
    (fault : Fault) :
    (machine.cycle keyboard now).result = .error fault ↔
      machine.halted = false ∧ machine.waiting = none ∧ machine.Faulting fault := by
  rw [faulting_iff]
  constructor
  · intro failed
    generalize outcome : machine.cycle keyboard now = transition at failed
    have course := outcome ▸ cycle_course machine keyboard now
    cases course with
    | halted | waiting | resumed | blocked | executed => cases failed
    | unknown raised running free undecoded =>
      cases failed
      exact ⟨running, free, .inl undecoded⟩
    | refused instruction raised running free decoded refused =>
      cases failed
      exact ⟨running, free, .inr ⟨instruction, decoded, refused⟩⟩
  · rintro ⟨running, free, undecoded | ⟨instruction, decoded, refused⟩⟩
    · rw [cycle_unknown now running free undecoded]
    · rw [cycle_refused now running free decoded refused]

/-- A cycle that fails halts the machine that its instruction left, and that is the machine
before the cycle. -/
theorem cycle_error_machine (machine : Machine) (keyboard : Keyboard) (now : Readings)
    (fault : Fault) (failed : (machine.cycle keyboard now).result = .error fault) :
    (machine.cycle keyboard now).machine = { machine with halted := true } := by
  obtain ⟨running, free, faulting⟩ := (cycle_eq_error_iff machine keyboard now fault).mp failed
  rcases (faulting_iff machine fault).mp faulting with undecoded | ⟨instruction, decoded, refused⟩
  · rw [cycle_unknown now running free undecoded]
  · have unchanged : machine.execute instruction keyboard = (machine, .error fault) :=
      execute_eq_error_iff.mpr ⟨refused, rfl⟩
    simp only [cycle, running, free, perform, attempt, decoded, unchanged, Except.map,
      Bool.false_eq_true, if_false]

/-- Faults are exact and atomic. A cycle fails with a fault exactly when the machine
neither is halted nor waits and the fault is the one of the opcode formed by the two
bytes at the program counter; the keys held and the time have no influence on it; and
a failed cycle leaves the machine as it was, except that it is halted.

Proof: over the thirty-four commands, an instruction returns a fault exactly when it is
refused, and the machine it returns beside the fault is the one it was given. The bits
of the opcodes that can be refused are those of their rows in the instruction table. -/
theorem faults_exact (machine : Machine) (keyboard : Keyboard) (now : Readings) :
    machine.fetch.toNat =
      256 * (machine.memory.bytes[machine.pc.toNat % 4096]).toNat +
        (machine.memory.bytes[(machine.pc.toNat + 1) % 4096]).toNat ∧
    ∀ fault,
      ((machine.cycle keyboard now).result = .error fault ↔
        machine.halted = false ∧ machine.waiting = none ∧ machine.Faulting fault) ∧
      (∀ otherKeyboard otherTime,
        (machine.cycle otherKeyboard otherTime).result = .error fault ↔
          (machine.cycle keyboard now).result = .error fault) ∧
      ((machine.cycle keyboard now).result = .error fault →
        (machine.cycle keyboard now).machine = { machine with halted := true }) := by
  refine ⟨machine.memory.word_toNat machine.pc.toNat, ?_⟩
  intro fault
  refine ⟨cycle_eq_error_iff machine keyboard now fault, ?_,
    cycle_error_machine machine keyboard now fault⟩
  intro otherKeyboard otherTime
  rw [cycle_eq_error_iff, cycle_eq_error_iff]

end Chip8.Machine
