import Chip8.Instruction.Decode

/-!
# Decoding by the bits of an opcode

No word belongs to two rows of the instruction table, and no command has two rows.
So decoding does not depend on the order of the rows: an opcode is the instruction of
the row it belongs to, and its command can be read off its fixed bits.
-/

namespace Chip8

/-- A word that two rows accept agrees with both patterns in the bits both rows fix. -/
theorem Row.patterns_agree {row other : Row} {opcode : UInt16}
    (first : row.accepts opcode = true) (second : other.accepts opcode = true) :
    row.pattern &&& other.mask = other.pattern &&& row.mask := by
  simp only [Row.accepts, beq_iff_eq] at first second
  rw [← first, ← second, UInt16.and_assoc, UInt16.and_assoc, UInt16.and_comm row.mask]

/-- No word belongs to two rows: any two of them fix some common bit differently. -/
theorem accepts_unique {row other : Row} {opcode : UInt16} (listed : row ∈ instructionTable)
    (otherListed : other ∈ instructionTable) (accepted : row.accepts opcode = true)
    (otherAccepted : other.accepts opcode = true) : row = other := by
  have apart : ∀ row ∈ instructionTable, ∀ other ∈ instructionTable,
      row.pattern &&& other.mask = other.pattern &&& row.mask → row = other := by decide +kernel
  exact apart row listed other otherListed (Row.patterns_agree accepted otherAccepted)

/-- A command has one row. -/
theorem command_unique {row other : Row} (listed : row ∈ instructionTable)
    (otherListed : other ∈ instructionTable) (same : row.command = other.command) :
    row = other := by
  have apart : ∀ row ∈ instructionTable, ∀ other ∈ instructionTable,
      row.command = other.command → row = other := by decide +kernel
  exact apart row listed other otherListed same

namespace Instruction

/-- A row that the search finds is in the table and accepts the opcode. -/
theorem accepts_of_find {row : Row} {opcode : UInt16}
    (found : instructionTable.find? (·.accepts opcode) = some row) :
    row ∈ instructionTable ∧ row.accepts opcode = true := by
  have accepted := List.find?_some found
  exact ⟨List.mem_of_find?_eq_some found, accepted⟩

/-- Among rows of the table the search finds the one that the opcode belongs to, wherever it
stands. -/
theorem find_of_accepts {rows : List Row} {row : Row} {opcode : UInt16}
    (known : ∀ other ∈ rows, other ∈ instructionTable) (listed : row ∈ rows)
    (accepted : row.accepts opcode = true) : rows.find? (·.accepts opcode) = some row := by
  cases found : rows.find? (·.accepts opcode) with
  | none => exact absurd accepted (List.find?_eq_none.mp found row listed)
  | some other =>
    have otherListed := known other (List.mem_of_find?_eq_some found)
    have otherAccepted := List.find?_some found
    exact congrArg some (accepts_unique otherListed (known row listed) otherAccepted accepted)

/-- An opcode is decoded by the row it belongs to. -/
theorem decode_of_accepts {row : Row} {opcode : UInt16} (listed : row ∈ instructionTable)
    (accepted : row.accepts opcode = true) : decode opcode = .ok (row.read opcode) := by
  have found := find_of_accepts (fun _ other => other) listed accepted
  simp only [decode, scan, found, Option.map_some]

/-- Whatever is decoded comes from a row that accepts the opcode. -/
theorem row_of_decode {opcode : UInt16} {instruction : Instruction}
    (decoded : decode opcode = .ok instruction) :
    ∃ row ∈ instructionTable, row.accepts opcode = true ∧ row.read opcode = instruction := by
  cases found : instructionTable.find? (·.accepts opcode) with
  | none => simp [decode, scan, found] at decoded
  | some row =>
    obtain ⟨listed, accepted⟩ := accepts_of_find found
    simp only [decode, scan, found, Option.map_some, Except.ok.injEq] at decoded
    exact ⟨row, listed, accepted, decoded⟩

/-- A decoded instruction keeps its opcode, so that it can be decoded again. -/
theorem opcode_of_decode {opcode : UInt16} {instruction : Instruction}
    (decoded : decode opcode = .ok instruction) : instruction.opcode = opcode := by
  obtain ⟨row, -, -, rfl⟩ := row_of_decode decoded
  rfl

/-- Decoding fails exactly on the opcodes of no row, and names the opcode. -/
theorem decode_eq_error_iff {opcode : UInt16} {fault : Fault} :
    decode opcode = .error fault ↔
      fault = .unknownOpcode opcode ∧ ∀ row ∈ instructionTable, row.accepts opcode = false := by
  constructor
  · intro failed
    cases found : instructionTable.find? (·.accepts opcode) with
    | some row => simp [decode, scan, found] at failed
    | none =>
      simp only [decode, scan, found, Option.map_none, Except.error.injEq] at failed
      refine ⟨failed.symm, ?_⟩
      intro row listed
      exact Bool.eq_false_iff.mpr (List.find?_eq_none.mp found row listed)
  · rintro ⟨rfl, unlisted⟩
    have found : instructionTable.find? (·.accepts opcode) = none := by
      rw [List.find?_eq_none]
      intro row listed
      simp only [unlisted row listed, Bool.false_eq_true, not_false_eq_true]
    simp only [decode, scan, found, Option.map_none]

/-- An opcode is decoded to the command of a row exactly when it has the row's bits. -/
theorem decodes_iff {row : Row} (listed : row ∈ instructionTable) (opcode : UInt16) :
    (∃ instruction, decode opcode = .ok instruction ∧ instruction.command = row.command) ↔
      opcode &&& row.mask = row.pattern := by
  constructor
  · rintro ⟨instruction, decoded, same⟩
    obtain ⟨other, otherListed, accepted, rfl⟩ := row_of_decode decoded
    obtain rfl : other = row := command_unique otherListed listed same
    simpa only [Row.accepts, beq_iff_eq] using accepted
  · intro bits
    have accepted : row.accepts opcode = true := by simpa only [Row.accepts, beq_iff_eq] using bits
    exact ⟨row.read opcode, decode_of_accepts listed accepted, rfl⟩

/-- What a decoded opcode commands can be read off its bits. -/
theorem command_iff {row : Row} {opcode : UInt16} {instruction : Instruction}
    (listed : row ∈ instructionTable) (decoded : decode opcode = .ok instruction) :
    instruction.command = row.command ↔ opcode &&& row.mask = row.pattern := by
  rw [← decodes_iff listed]
  constructor
  · intro same
    exact ⟨instruction, decoded, same⟩
  · rintro ⟨other, otherDecoded, same⟩
    obtain rfl : instruction = other := Except.ok.inj (decoded.symm.trans otherDecoded)
    exact same

/-- A decoded instruction is read from its opcode as the row of its command says. -/
theorem eq_read_of_decode {row : Row} {opcode : UInt16} {instruction : Instruction}
    (listed : row ∈ instructionTable) (decoded : decode opcode = .ok instruction)
    (same : instruction.command = row.command) : instruction = row.read opcode := by
  obtain ⟨other, otherListed, -, rfl⟩ := row_of_decode decoded
  obtain rfl : other = row := command_unique otherListed listed same
  rfl

end Instruction

/-- The register named by the second digit of an opcode. -/
def registerX (opcode : UInt16) : Register :=
  ⟨opcode.toNat / 256 % 16, Nat.mod_lt _ (by decide)⟩

/-- Where the first operand of a row is a register, it is the one of the second digit. -/
theorem Row.x_read {row : Row} (leading : row.operands.head? = some .x) (opcode : UInt16) :
    (row.read opcode).x = registerX opcode := by
  obtain ⟨rest, operands⟩ : ∃ rest, row.operands = .x :: rest := List.head?_eq_some_iff.mp leading
  have digit : (opcode.toNat &&& 0x0F00) >>> 8 % 16 = opcode.toNat / 256 % 16 := by
    have low : opcode.toNat >>> 8 &&& 15 = opcode.toNat >>> 8 % 16 :=
      Nat.and_two_pow_sub_one_eq_mod (opcode.toNat >>> 8) 4
    calc (opcode.toNat &&& 0x0F00) >>> 8 % 16
      _ = (opcode.toNat >>> 8 &&& 15) % 16 := congrArg (· % 16) Nat.shiftRight_and_distrib
      _ = opcode.toNat >>> 8 % 16 := by rw [low, Nat.mod_mod]
      _ = opcode.toNat / 256 % 16 := by rw [Nat.shiftRight_eq_div_pow]
  apply Fin.ext
  simp only [Row.read, operands, List.map_cons, List.getD_cons_zero, Instruction.x,
    Operand.extract, Operand.x, registerX, Fin.ofNat, UInt16.toNat_shiftRight, UInt16.toNat_and]
  exact digit

/-- A decoded instruction whose row begins with a register has the register of the
opcode's second digit. -/
theorem Instruction.x_of_decode {row : Row} {opcode : UInt16} {instruction : Instruction}
    (listed : row ∈ instructionTable) (leading : row.operands.head? = some .x)
    (decoded : decode opcode = .ok instruction) (same : instruction.command = row.command) :
    instruction.x = registerX opcode := by
  rw [eq_read_of_decode listed decoded same]
  exact Row.x_read leading opcode

/-- Where the second operand of a row is a byte, it is the low byte of the opcode. -/
theorem Row.byte_read {row : Row} (placed : row.operands[1]? = some .byte) (opcode : UInt16) :
    (row.read opcode).byte = opcode.toUInt8 := by
  have second : (row.read opcode).second = opcode &&& 0x00FF := by
    simp [Row.read, placed, Operand.extract, Operand.byte]
  have low : opcode.toNat &&& 0x00FF = opcode.toNat % 256 :=
    Nat.and_two_pow_sub_one_eq_mod opcode.toNat 8
  apply UInt8.toNat_inj.mp
  calc (row.read opcode).byte.toNat
    _ = (opcode.toNat &&& 0x00FF) % 256 := congrArg (fun value => value.toUInt8.toNat) second
    _ = opcode.toNat % 256 := by rw [low, Nat.mod_mod]

/-- A decoded instruction whose row has a byte in second place has the low byte of the
opcode. -/
theorem Instruction.byte_of_decode {row : Row} {opcode : UInt16} {instruction : Instruction}
    (listed : row ∈ instructionTable) (placed : row.operands[1]? = some .byte)
    (decoded : decode opcode = .ok instruction) (same : instruction.command = row.command) :
    instruction.byte = opcode.toUInt8 := by
  rw [eq_read_of_decode listed decoded same]
  exact Row.byte_read placed opcode

end Chip8
