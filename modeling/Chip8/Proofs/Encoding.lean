import Mathlib.Algebra.Group.Nat.Defs
import Mathlib.Data.List.Forall2
import Chip8.Proofs.Decoding

/-!
# Opcodes as an encoding

The bits of a word are divided among the mask of a row and the masks of its operands, each bit
to one of them. So putting operand values in their places fills exactly the bits that the
pattern leaves open, and reading them back gives the values; and putting back what was read
gives the word. That the bits are divided in this way is checked row by row; everything else
follows from it for any row.

No word belongs to two rows, so the order of the table has no effect on what is decoded.
-/

namespace Chip8

section Bits

variable (first second mask : UInt16)

/-- A mask lets each part of a word through on its own. -/
theorem or_masked : (first ||| second) &&& mask = first &&& mask ||| second &&& mask :=
  UInt16.toBitVec_inj.mp BitVec.and_or_distrib_right

/-- Two masks together let through what either does. -/
theorem masked_or : mask &&& (first ||| second) = mask &&& first ||| mask &&& second :=
  UInt16.toBitVec_inj.mp BitVec.and_or_distrib_left

end Bits

namespace Operand

/-- The values an operand can have, as a mask: the bits of its place, moved to the right. -/
def full (operand : Operand) : UInt16 :=
  operand.mask >>> operand.shift.toUInt16

/-- The place of an operand is a run of bits from its shift on. -/
def Dense (operand : Operand) : Prop :=
  operand.full <<< operand.shift.toUInt16 = operand.mask ∧
    ∃ width < 17, operand.full.toNat = 2 ^ width - 1

instance (operand : Operand) : Decidable operand.Dense :=
  inferInstanceAs (Decidable (_ ∧ _))

/-- A value that has no more bits than the place of the operand. -/
def Fits (operand : Operand) (value : UInt16) : Prop :=
  value ≤ operand.mask >>> operand.shift.toUInt16

variable {operand : Operand}

/-- Putting back what was read gives the bits under the mask. -/
theorem place_extract (dense : operand.Dense) (word : UInt16) :
    operand.place (operand.extract word) = word &&& operand.mask := by
  obtain ⟨aligned, -⟩ := dense
  rw [place, extract, UInt16.shiftRight_and, UInt16.shiftLeft_and]
  rw [full] at aligned
  -- Below the shift the mask has no bits, from there on the two shifts undo each other.
  have bits := congrArg UInt16.toBitVec aligned
  rw [aligned]
  apply UInt16.toBitVec_inj.mp
  rw [UInt16.toBitVec_and, UInt16.toBitVec_and]
  ext place bound
  have bit := congrArg (·[place]) bits
  simp only [UInt16.toBitVec_shiftLeft, UInt16.toBitVec_shiftRight, BitVec.ushiftRight_eq',
    BitVec.shiftLeft_eq', BitVec.getElem_shiftLeft, BitVec.getElem_ushiftRight,
    BitVec.getElem_and] at bit ⊢
  grind

/-- A fitting value stays under the mask. -/
theorem place_masked (dense : operand.Dense) {value : UInt16} (fits : operand.Fits value) :
    operand.place value &&& operand.mask = operand.place value := by
  obtain ⟨aligned, width, -, ones⟩ := dense
  have below : value.toNat ≤ operand.full.toNat := UInt16.le_iff_toNat_le.mp fits
  have positive := Nat.two_pow_pos width
  have kept : value &&& operand.full = value := by
    apply UInt16.toNat_inj.mp
    rw [UInt16.toNat_and, ones, Nat.and_two_pow_sub_one_eq_mod, Nat.mod_eq_of_lt (by omega)]
  calc operand.place value &&& operand.mask
    _ = value <<< operand.shift.toUInt16 &&& operand.full <<< operand.shift.toUInt16 := by
      rw [place, aligned]
    _ = operand.place value := by rw [← UInt16.shiftLeft_and, kept, place]

/-- A fitting value is read back wherever it stands alone under the mask. -/
theorem extract_place {value word : UInt16} (fits : operand.Fits value)
    (alone : word &&& operand.mask = operand.place value) : operand.extract word = value := by
  have below : value.toNat ≤ (operand.mask >>> operand.shift.toUInt16).toNat :=
    UInt16.le_iff_toNat_le.mp fits
  have bound : operand.mask.toNat < 65536 := operand.mask.toNat_lt
  rw [extract, alone, place]
  apply UInt16.toNat_inj.mp
  simp only [UInt16.toNat_shiftRight, UInt16.toNat_shiftLeft, Nat.shiftRight_eq_div_pow,
    Nat.shiftLeft_eq] at below ⊢
  have positive := Nat.two_pow_pos (operand.shift.toUInt16.toNat % 16)
  have room := (Nat.le_div_iff_mul_le positive).mp below
  rw [Nat.mod_eq_of_lt (by omega), Nat.mul_div_cancel _ positive]

/-- The operands divide among themselves the bits that are not taken yet, each bit to one of
them. -/
def Divide (taken : UInt16) : List Operand → Prop
  | [] => taken = 0xFFFF
  | operand :: rest =>
    operand.Dense ∧ taken &&& operand.mask = 0 ∧ Divide (taken ||| operand.mask) rest

instance decidableDivide : (taken : UInt16) → (operands : List Operand) →
    Decidable (Divide taken operands)
  | taken, [] => inferInstanceAs (Decidable (taken = 0xFFFF))
  | taken, operand :: rest =>
    have := decidableDivide (taken ||| operand.mask) rest
    inferInstanceAs (Decidable (_ ∧ _ ∧ _))

/-- Put values in the places of operands, onto a word. -/
def fill (word : UInt16) (operands : List Operand) (values : List UInt16) : UInt16 :=
  (List.zipWith place operands values).foldl (· ||| ·) word

/-- The operands of a row are put into a word one after another. -/
theorem fill_cons (word : UInt16) (operand : Operand) (rest : List Operand) (value : UInt16)
    (others : List UInt16) :
    fill word (operand :: rest) (value :: others) =
      fill (word ||| operand.place value) rest others := rfl

/-- Putting back what was read from a word, onto the bits already taken from it, gives the
word. -/
theorem fill_extract {taken : UInt16} {operands : List Operand}
    (divided : Divide taken operands) (word : UInt16) :
    fill (word &&& taken) operands (operands.map (·.extract word)) = word := by
  induction operands generalizing taken with
  | nil =>
    obtain rfl : taken = 0xFFFF := divided
    exact UInt16.and_neg_one
  | cons operand rest inductionHypothesis =>
    obtain ⟨dense, -, others⟩ := divided
    rw [List.map_cons, fill_cons, place_extract dense, ← masked_or]
    exact inductionHypothesis others

/-- Fitting values, put onto a word within the bits already taken, leave these bits as they
were and are read back from their places.

The induction is on the operands: once a value stands in its place, its bits are taken, and
what follows leaves them alone. -/
theorem extract_fill {taken word : UInt16} {operands : List Operand} {values : List UInt16}
    (divided : Divide taken operands) (within : word &&& taken = word)
    (fit : List.Forall₂ Fits operands values) :
    fill word operands values &&& taken = word ∧
      operands.map (·.extract (fill word operands values)) = values := by
  induction fit generalizing taken word with
  | nil => exact ⟨within, rfl⟩
  | @cons operand value rest others fits _ inductionHypothesis =>
    obtain ⟨dense, apart, later⟩ := divided
    have masked := place_masked dense fits
    have valueFree : operand.place value &&& taken = 0 := by
      rw [← masked, UInt16.and_assoc, UInt16.and_comm operand.mask, apart, UInt16.and_zero]
    have wordFree : word &&& operand.mask = 0 := by
      rw [← within, UInt16.and_assoc, apart, UInt16.and_zero]
    have wordPart : (word ||| operand.place value) &&& taken = word := by
      rw [or_masked, within, valueFree, UInt16.or_zero]
    have valuePart : (word ||| operand.place value) &&& operand.mask = operand.place value := by
      rw [or_masked, wordFree, masked, UInt16.zero_or]
    obtain ⟨kept, read⟩ := inductionHypothesis later (by rw [masked_or, wordPart, valuePart])
    -- Within the bits taken so far the later values have changed nothing.
    have still (bits : UInt16) (inside : (taken ||| operand.mask) &&& bits = bits) :
        fill (word ||| operand.place value) rest others &&& bits =
          (word ||| operand.place value) &&& bits := by
      rw [← kept, UInt16.and_assoc, inside, kept]
    have before := still taken (by
      rw [or_masked, UInt16.and_self, UInt16.and_comm operand.mask, apart, UInt16.or_zero])
    have here := still operand.mask (by rw [or_masked, apart, UInt16.and_self, UInt16.zero_or])
    rw [fill_cons, List.map_cons, read]
    exact ⟨before.trans wordPart,
      congrArg (· :: others) (extract_place fits (here.trans valuePart))⟩

end Operand

/-- The bits of the row's mask and the places of its operands divide the word, the pattern lies
within the mask, and there are no more than three operands. -/
def Row.Lossless (row : Row) : Prop :=
  row.pattern &&& row.mask = row.pattern ∧ Operand.Divide row.mask row.operands ∧
    row.operands.length ≤ 3

instance (row : Row) : Decidable row.Lossless :=
  inferInstanceAs (Decidable (_ ∧ _ ∧ _))

/-- Every row of the table divides the word. -/
theorem table_lossless : ∀ row ∈ instructionTable, row.Lossless := by
  decide +kernel

namespace Row

/-- The three operands of an instruction are the values read from its opcode, with zeros
behind them. -/
theorem operands_read {row : Row} (few : row.operands.length ≤ 3) (opcode : UInt16) :
    (row.read opcode).operands =
      row.operands.map (·.extract opcode) ++ List.replicate (3 - row.operands.length) 0 := by
  obtain ⟨command, mask, pattern, operands⟩ := row
  match operands, few with
  | [], _ | [_], _ | [_, _], _ | [_, _, _], _ => rfl

/-- Values behind those of the operands are not used. -/
theorem assemble_append {row : Row} {values : List UInt16}
    (count : values.length = row.operands.length) (more : List UInt16) :
    row.assemble (values ++ more) = row.assemble values := by
  have zipped : List.zipWith Operand.place (row.operands ++ []) (values ++ more) =
      List.zipWith Operand.place row.operands values := by
    rw [List.zipWith_append count.symm, List.zipWith_nil_left, List.append_nil]
  rw [List.append_nil] at zipped
  rw [assemble, assemble, zipped]

/-- The opcode of a row is made up of its pattern and the operands read from it. -/
theorem assemble_read {row : Row} (lossless : row.Lossless) {opcode : UInt16}
    (accepted : row.accepts opcode = true) :
    row.assemble (row.read opcode).operands = opcode := by
  obtain ⟨-, divided, few⟩ := lossless
  have bits : opcode &&& row.mask = row.pattern := by
    simpa only [accepts, beq_iff_eq] using accepted
  have filled := Operand.fill_extract divided opcode
  rw [bits] at filled
  rw [operands_read few, assemble_append (by rw [List.length_map])]
  exact filled

/-- A row accepts what was assembled from it, and reads the operands that were put in. -/
theorem read_assemble {row : Row} (lossless : row.Lossless) {values : List UInt16}
    (fit : List.Forall₂ Operand.Fits row.operands values) :
    row.accepts (row.assemble values) = true ∧
      (row.read (row.assemble values)).operands =
        values ++ List.replicate (3 - values.length) 0 := by
  obtain ⟨pattern, divided, few⟩ := lossless
  obtain ⟨kept, read⟩ := Operand.extract_fill divided pattern fit
  constructor
  · rw [accepts, beq_iff_eq]
    exact kept
  · rw [operands_read few, fit.length_eq]
    exact congrArg (· ++ List.replicate (3 - values.length) 0) read

end Row

namespace Instruction

/-- Whatever the order of the table, an opcode is decoded by the one row it belongs to. -/
theorem scan_perm {rows : List Row} (reordered : rows.Perm instructionTable) (opcode : UInt16) :
    scan rows opcode = scan instructionTable opcode := by
  have known : ∀ row ∈ rows, row ∈ instructionTable := fun row => reordered.mem_iff.mp
  have find : rows.find? (·.accepts opcode) = instructionTable.find? (·.accepts opcode) := by
    cases found : instructionTable.find? (·.accepts opcode) with
    | none =>
      rw [List.find?_eq_none] at found ⊢
      intro row member
      exact found row (known row member)
    | some row =>
      obtain ⟨listed, accepted⟩ := accepts_of_find found
      exact find_of_accepts known (reordered.mem_iff.mpr listed) accepted
  rw [scan, scan, find]

/-- The table is an unambiguous encoding that loses nothing. Scanned in any order it decodes
every word to the same instruction, or to the same fault. The pattern of the row by which a word
is decoded, with the operands that were read from it put in their places, gives back the word.
And a word assembled from a row and values that fit the places of its operands is decoded to the
row's command with exactly these values, in their order and with zeros behind them.

Proof: each row divides the word among its mask and its operands, so reading and putting in
place undo each other; and no word belongs to two rows, so the row that was meant is the one
that is found. -/
theorem table_lossless_in_any_order :
    (∀ rows : List Row, rows.Perm instructionTable → ∀ opcode,
      (scan rows opcode).elim (.error (.unknownOpcode opcode)) .ok = decode opcode) ∧
    (∀ opcode instruction, decode opcode = .ok instruction →
      ∃ row ∈ instructionTable, instructionTable.find? (·.accepts opcode) = some row ∧
        instruction.command = row.command ∧ row.assemble instruction.operands = opcode) ∧
    (∀ row ∈ instructionTable, ∀ values,
      List.Forall₂ (fun operand value => value ≤ operand.mask >>> operand.shift.toUInt16)
        row.operands values →
      ∃ instruction, decode (row.assemble values) = .ok instruction ∧
        instruction.command = row.command ∧
        instruction.operands = values ++ List.replicate (3 - values.length) 0) := by
  refine ⟨?_, ?_, ?_⟩
  · intro rows reordered opcode
    rw [scan_perm reordered, decode]
    cases scan instructionTable opcode <;> rfl
  · intro opcode instruction decoded
    obtain ⟨row, listed, accepted, rfl⟩ := row_of_decode decoded
    exact ⟨row, listed, find_of_accepts (fun _ other => other) listed accepted, rfl,
      Row.assemble_read (table_lossless row listed) accepted⟩
  · intro row listed values fit
    obtain ⟨accepted, operands⟩ := Row.read_assemble (table_lossless row listed) fit
    exact ⟨_, decode_of_accepts listed accepted, rfl, operands⟩

/-- With the table turned round `D12F` is decoded as before: to a sprite with the operands it is
assembled from. -/
theorem sprite_in_reverse :
    let row : Row := ⟨.draw, 0xF000, 0xD000, [.x, .y, .nibble]⟩
    (instructionTable.reverse.Perm instructionTable ∧ row ∈ instructionTable ∧
      row.assemble [1, 2, 15] = 0xD12F) ∧
    (scan instructionTable.reverse 0xD12F).elim (.error (.unknownOpcode 0xD12F)) .ok =
      decode 0xD12F ∧
    ∃ instruction, decode 0xD12F = .ok instruction ∧ instruction.command = .draw ∧
      instruction.operands = [1, 2, 15] := by
  intro row
  have reordered := List.reverse_perm instructionTable
  have listed : row ∈ instructionTable := by decide
  have assembled : row.assemble [1, 2, 15] = 0xD12F := by decide
  obtain ⟨anyOrder, -, encodes⟩ := table_lossless_in_any_order
  obtain ⟨instruction, decoded, command, operands⟩ :=
    encodes row listed [1, 2, 15] (.cons (by decide) (.cons (by decide) (.cons (by decide) .nil)))
  rw [assembled] at decoded
  exact ⟨⟨reordered, listed, assembled⟩, anyOrder _ reordered 0xD12F, instruction, decoded, command,
    operands⟩

end Instruction

end Chip8
