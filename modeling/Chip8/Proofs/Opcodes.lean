import Chip8.Proofs.Cycle
import Chip8.Proofs.Decoding

/-!
# Executing an opcode

The operands of an opcode are its digits: two registers, an address, a byte or a number of
rows. An opcode is executed by itself, or in a cycle of a machine that has it at the program
counter; the cycle adds only the timers and the program counter. What an opcode does to the
other parts of a machine can therefore be said once for both.
-/

namespace Chip8

/-- The register named by the third digit of an opcode. -/
def registerY (opcode : UInt16) : Register :=
  ⟨opcode.toNat / 16 % 16, Nat.mod_lt _ (by decide)⟩

namespace Row

variable {row : Row}

/-- Where the second operand of a row is a register, it is the one of the third digit. -/
theorem y_read (placed : row.operands[1]? = some .y) (opcode : UInt16) :
    (row.read opcode).y = registerY opcode := by
  have second : (row.read opcode).second = Operand.y.extract opcode := by
    simp [Row.read, placed]
  have digit : (opcode.toNat &&& 0x00F0) >>> 4 = opcode.toNat / 16 % 16 := by
    calc (opcode.toNat &&& 0x00F0) >>> 4
      _ = opcode.toNat >>> 4 &&& 15 := Nat.shiftRight_and_distrib
      _ = opcode.toNat >>> 4 % 16 := Nat.and_two_pow_sub_one_eq_mod (opcode.toNat >>> 4) 4
      _ = opcode.toNat / 16 % 16 := by rw [Nat.shiftRight_eq_div_pow]
  apply Fin.ext
  simp only [Instruction.y, second, Operand.extract, Operand.y, registerY, Fin.ofNat,
    UInt16.toNat_shiftRight, UInt16.toNat_and]
  exact (congrArg (· % 16) digit).trans (Nat.mod_mod _ _)

/-- Where the third operand of a row is a number of rows, it is the last digit. -/
theorem height_read (placed : row.operands[2]? = some .nibble) (opcode : UInt16) :
    (row.read opcode).height = opcode.toNat % 16 := by
  have third : (row.read opcode).third = opcode &&& 0x000F := by
    simp [Row.read, placed, Operand.extract, Operand.nibble]
  rw [Instruction.height, third, UInt16.toNat_and]
  exact Nat.and_two_pow_sub_one_eq_mod opcode.toNat 4

/-- Where the first operand of a row is an address, it is what stands behind the first digit. -/
theorem address_read (placed : row.operands[0]? = some .address) (opcode : UInt16) :
    (row.read opcode).address.toNat = opcode.toNat % 4096 := by
  have first : (row.read opcode).first = opcode &&& 0x0FFF := by
    simp [Row.read, placed, Operand.extract, Operand.address]
  rw [Instruction.address, first, UInt16.toNat_and]
  exact Nat.and_two_pow_sub_one_eq_mod opcode.toNat 12

end Row

namespace Instruction

variable {row : Row} {opcode : UInt16} {instruction : Instruction}
  (listed : row ∈ instructionTable) (decoded : decode opcode = .ok instruction)
  (same : instruction.command = row.command)
include listed decoded same

/-- The second register of a decoded instruction is the one of the opcode's third digit. -/
theorem y_of_decode (placed : row.operands[1]? = some .y) : instruction.y = registerY opcode :=
  eq_read_of_decode listed decoded same ▸ Row.y_read placed opcode

/-- The address of a decoded instruction stands behind the first digit of the opcode. -/
theorem address_of_decode (placed : row.operands[0]? = some .address) :
    instruction.address.toNat = opcode.toNat % 4096 :=
  eq_read_of_decode listed decoded same ▸ Row.address_read placed opcode

end Instruction

namespace Machine

/-- An opcode is executed, whatever keys are held: by itself it makes the machine another one,
and the program goes on behind it. A cycle of a running machine that waits for nothing and has
the opcode at the program counter completes it and leaves the same machine, apart from the
timers, their clock and the program counter. -/
def Executes (machine : Machine) (opcode : UInt16) (after : Machine) : Prop :=
  ∃ instruction, Instruction.decode opcode = .ok instruction ∧
    ∀ keyboard, machine.execute instruction keyboard = (after, .ok .next) ∧
      ∀ now, machine.halted = false → machine.waiting = none → machine.fetch = opcode →
        (machine.cycle keyboard now).result = .ok (.executed instruction) ∧
          SameCore after (machine.cycle keyboard now).machine

/-- An opcode with the bits of a row is executed as the row's instruction is. -/
theorem executes_of_row {machine after : Machine} {row : Row} {opcode : UInt16}
    (listed : row ∈ instructionTable) (bits : opcode &&& row.mask = row.pattern)
    (done : ∀ keyboard, machine.execute (row.read opcode) keyboard = (after, .ok .next)) :
    machine.Executes opcode after := by
  have accepted : row.accepts opcode = true := by simpa only [Row.accepts, beq_iff_eq] using bits
  have decoded := Instruction.decode_of_accepts listed accepted
  refine ⟨row.read opcode, decoded, ?_⟩
  intro keyboard
  refine ⟨done keyboard, ?_⟩
  intro now running free fetched
  rw [cycle_executed now running free (fetched.symm ▸ decoded) (done keyboard) (by decide)]
  exact ⟨rfl, sameCore_finish after now.counted .next⟩

section Effects

variable (machine : Machine) {row : Row} {opcode : UInt16} (listed : row ∈ instructionTable)
include listed

/-- An opcode that names one register has the effect of its command on it. -/
theorem executes_single (operands : row.operands = [.x])
    (bits : opcode &&& row.mask = row.pattern) (effect : Register → Machine)
    (done : ∀ instruction keyboard, instruction.command = row.command →
      machine.execute instruction keyboard = (effect instruction.x, .ok .next)) :
    machine.Executes opcode (effect (registerX opcode)) := by
  have x : (row.read opcode).x = registerX opcode := Row.x_read (by rw [operands]; rfl) opcode
  apply executes_of_row listed bits
  intro keyboard
  rw [done (row.read opcode) keyboard rfl, x]

/-- An opcode that names two registers has the effect of its command on them. -/
theorem executes_pair (operands : row.operands = [.x, .y])
    (bits : opcode &&& row.mask = row.pattern) (effect : Register → Register → Machine)
    (done : ∀ instruction keyboard, instruction.command = row.command →
      machine.execute instruction keyboard = (effect instruction.x instruction.y, .ok .next)) :
    machine.Executes opcode (effect (registerX opcode) (registerY opcode)) := by
  have x : (row.read opcode).x = registerX opcode := Row.x_read (by rw [operands]; rfl) opcode
  have y : (row.read opcode).y = registerY opcode := Row.y_read (by rw [operands]; rfl) opcode
  apply executes_of_row listed bits
  intro keyboard
  rw [done (row.read opcode) keyboard rfl, x, y]

end Effects

end Machine

end Chip8
