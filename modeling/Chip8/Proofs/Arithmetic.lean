import Chip8.Proofs.Opcodes

/-!
# Sums, differences and shifts

Five opcodes report in the flag register: a sum its carry, a difference that nothing was
borrowed, a shift the bit that it lost. The result is stored first and the flag afterwards, but
both are computed from the registers as they were. So it does not matter which of VX, VY and
the flag register are the same, except that a result stored in the flag register is lost.
-/

namespace Chip8

/-- A condition as a flag is one if it holds, otherwise zero. -/
theorem flagOf_toNat (condition : Bool) : (flagOf condition).toNat = condition.toNat := by
  cases condition <;> rfl

namespace Settings

/-- The value that a shift reads, in terms of numbers. -/
theorem shiftSource_toNat (settings : Settings) (vx vy : UInt8) :
    (settings.shiftSource vx vy).toNat =
      if settings.shiftUsesVy then vy.toNat else vx.toNat := by
  unfold shiftSource
  split <;> rfl

end Settings

section Bytes

variable (first second source : UInt8)

/-- A sum of bytes is its last eight bits and the carry. -/
theorem carry_add_sum :
    256 * ((first.toNat + second.toNat) / 256) + (first + second).toNat =
      first.toNat + second.toNat := by
  rw [UInt8.toNat_add]
  omega

/-- A sum of bytes has a carry when it takes more than eight bits. -/
theorem carry_toNat :
    (flagOf (256 ≤ first.toNat + second.toNat)).toNat = (first.toNat + second.toNat) / 256 := by
  have firstBound : first.toNat < 256 := first.toNat_lt
  have secondBound : second.toNat < 256 := second.toNat_lt
  rw [flagOf_toNat]
  by_cases carries : 256 ≤ first.toNat + second.toNat
  · rw [decide_eq_true carries, Bool.toNat_true]
    omega
  · rw [decide_eq_false carries, Bool.toNat_false]
    omega

/-- A difference of bytes is the one of their numbers, modulo 256. -/
theorem difference_toNat :
    ((first - second).toNat : Int) = ((first.toNat : Int) - second.toNat) % 256 := by
  have firstBound : first.toNat < 256 := first.toNat_lt
  have secondBound : second.toNat < 256 := second.toNat_lt
  rw [UInt8.toNat_sub]
  omega

/-- Shifted to the right, a byte loses its last bit. -/
theorem lost_low_toNat : (source &&& 1).toNat = source.toNat % 2 := by
  rw [UInt8.toNat_and]
  exact Nat.and_one_is_mod source.toNat

/-- A shift to the right halves a byte, and the bit that falls out is the remainder. -/
theorem shiftRight_add_low : 2 * (source >>> 1).toNat + source.toNat % 2 = source.toNat := by
  have half : (source >>> 1).toNat = source.toNat / 2 := by
    rw [UInt8.toNat_shiftRight]
    exact Nat.shiftRight_eq_div_pow source.toNat 1
  omega

/-- Shifted to the left, a byte loses its first bit. -/
theorem lost_high_toNat : (source >>> 7).toNat = source.toNat / 128 := by
  rw [UInt8.toNat_shiftRight]
  exact Nat.shiftRight_eq_div_pow source.toNat 7

/-- A shift to the left doubles a byte, and the bit that falls out is the carry. -/
theorem high_add_shiftLeft :
    256 * (source.toNat / 128) + (source <<< 1).toNat = 2 * source.toNat := by
  have bound : source.toNat < 256 := source.toNat_lt
  have doubled : (source <<< 1).toNat = source.toNat * 2 % 256 := by
    rw [UInt8.toNat_shiftLeft]
    exact congrArg (· % 256) (Nat.shiftLeft_eq source.toNat 1)
  omega

end Bytes

namespace Machine

/-- An opcode is executed and reports a number in the flag register, whatever VX is. If VX is
another register it satisfies a law of its new value and the flag. All other registers stay as
they are. -/
def Reports (machine : Machine) (opcode : UInt16) (report : Nat) (law : Nat → Nat → Prop) : Prop :=
  let x := registerX opcode
  ∃ after, machine.Executes opcode after ∧
    (after.reg flag).toNat = report ∧
    (x ≠ flag → law (after.reg x).toNat (after.reg flag).toNat) ∧
    ∀ register, register ≠ x → register ≠ flag → after.reg register = machine.reg register

/-- An opcode is executed and changes no register but VX, not even the flag register. -/
def Silent (machine : Machine) (opcode : UInt16) : Prop :=
  ∃ after, machine.Executes opcode after ∧
    ∀ register ≠ registerX opcode, after.reg register = machine.reg register

section Opcodes

variable (machine : Machine) {opcode : UInt16}

/-- An opcode that sets VX and then the flag reports. -/
theorem reports_of_executes {value report : UInt8} {number : Nat} {law : Nat → Nat → Prop}
    (executed : machine.Executes opcode
      (machine.setWithFlag (registerX opcode) value report))
    (reported : report.toNat = number) (lawful : law value.toNat number) :
    machine.Reports opcode number law := by
  let after := machine.setWithFlag (registerX opcode) value report
  have flagged : (after.reg flag).toNat = number :=
    (congrArg UInt8.toNat (reg_setReg _ _ _)).trans reported
  refine ⟨after, executed, flagged, ?_, ?_⟩
  · -- The flag is stored in another register, so VX keeps the value stored before.
    intro apart
    have result : after.reg (registerX opcode) = value :=
      (reg_setReg_of_ne _ _ apart).trans (reg_setReg _ _ _)
    rw [result, flagged]
    exact lawful
  · intro register noResult noFlag
    exact (reg_setReg_of_ne _ _ noFlag).trans (reg_setReg_of_ne _ _ noResult)

/-- An opcode that sets VX alone is silent. -/
theorem silent_of_executes {value : UInt8}
    (executed : machine.Executes opcode (machine.setReg (registerX opcode) value)) :
    machine.Silent opcode := by
  refine ⟨_, executed, ?_⟩
  intro register other
  exact reg_setReg_of_ne _ _ other

/-- `8XY4` reports the carry of a sum. -/
theorem reports_add (bits : opcode &&& 0xF00F = 0x8004) :
    let a := (machine.reg (registerX opcode)).toNat
    let b := (machine.reg (registerY opcode)).toNat
    machine.Reports opcode ((a + b) / 256) fun vx vf => 256 * vf + vx = a + b := by
  intro a b
  have listed : (⟨.add, 0xF00F, 0x8004, [.x, .y]⟩ : Row) ∈ instructionTable := by decide
  have executed := executes_pair machine listed rfl bits
    (fun x y => machine.setWithFlag x (machine.reg x + machine.reg y)
      (flagOf (256 ≤ (machine.reg x).toNat + (machine.reg y).toNat)))
    fun instruction keyboard command => by simp only [execute, command]
  exact reports_of_executes machine executed (carry_toNat _ _) (carry_add_sum _ _)

/-- `8XY5` reports that VY was taken from VX without a borrow. -/
theorem reports_subtract (bits : opcode &&& 0xF00F = 0x8005) :
    let vx := machine.reg (registerX opcode)
    let vy := machine.reg (registerY opcode)
    machine.Reports opcode (machine.settings.noBorrow vx vy).toNat
      fun result _ => (result : Int) = ((vx.toNat : Int) - vy.toNat) % 256 := by
  intro vx vy
  have listed : (⟨.subtract, 0xF00F, 0x8005, [.x, .y]⟩ : Row) ∈ instructionTable := by decide
  have executed := executes_pair machine listed rfl bits
    (fun x y => machine.setWithFlag x (machine.reg x - machine.reg y)
      (flagOf (machine.settings.noBorrow (machine.reg x) (machine.reg y))))
    fun instruction keyboard command => by simp only [execute, command]
  exact reports_of_executes machine executed (flagOf_toNat _) (difference_toNat vx vy)

/-- `8XY7` reports that VX was taken from VY without a borrow. -/
theorem reports_subtractFrom (bits : opcode &&& 0xF00F = 0x8007) :
    let vx := machine.reg (registerX opcode)
    let vy := machine.reg (registerY opcode)
    machine.Reports opcode (machine.settings.noBorrow vy vx).toNat
      fun result _ => (result : Int) = ((vy.toNat : Int) - vx.toNat) % 256 := by
  intro vx vy
  have listed : (⟨.subtractFrom, 0xF00F, 0x8007, [.x, .y]⟩ : Row) ∈ instructionTable := by decide
  have executed := executes_pair machine listed rfl bits
    (fun x y => machine.setWithFlag x (machine.reg y - machine.reg x)
      (flagOf (machine.settings.noBorrow (machine.reg y) (machine.reg x))))
    fun instruction keyboard command => by simp only [execute, command]
  exact reports_of_executes machine executed (flagOf_toNat _) (difference_toNat vy vx)

/-- `8XY6` reports the last bit of what it shifts to the right. -/
theorem reports_shiftRight (bits : opcode &&& 0xF00F = 0x8006) :
    let source := (machine.settings.shiftSource (machine.reg (registerX opcode))
      (machine.reg (registerY opcode))).toNat
    machine.Reports opcode (source % 2) fun vx vf => 2 * vx + vf = source := by
  intro source
  have listed : (⟨.shiftRight, 0xF00F, 0x8006, [.x, .y]⟩ : Row) ∈ instructionTable := by decide
  have executed := executes_pair machine listed rfl bits
    (fun x y =>
      let source := machine.settings.shiftSource (machine.reg x) (machine.reg y)
      machine.setWithFlag x (source >>> 1) (source &&& 1))
    fun instruction keyboard command => by simp only [execute, command]
  exact reports_of_executes machine executed (lost_low_toNat _) (shiftRight_add_low _)

/-- `8XYE` reports the first bit of what it shifts to the left. -/
theorem reports_shiftLeft (bits : opcode &&& 0xF00F = 0x800E) :
    let source := (machine.settings.shiftSource (machine.reg (registerX opcode))
      (machine.reg (registerY opcode))).toNat
    machine.Reports opcode (source / 128) fun vx vf => 256 * vf + vx = 2 * source := by
  intro source
  have listed : (⟨.shiftLeft, 0xF00F, 0x800E, [.x, .y]⟩ : Row) ∈ instructionTable := by decide
  have executed := executes_pair machine listed rfl bits
    (fun x y =>
      let source := machine.settings.shiftSource (machine.reg x) (machine.reg y)
      machine.setWithFlag x (source <<< 1) (source >>> 7))
    fun instruction keyboard command => by simp only [execute, command]
  exact reports_of_executes machine executed (lost_high_toNat _) (high_add_shiftLeft _)

/-- `7XKK`, the copy `8XY0` and the bitwise `8XY1`, `8XY2` and `8XY3` report nothing. -/
theorem silent_of_bits
    (bits : opcode &&& 0xF000 = 0x7000 ∨
      opcode &&& 0xF00F ∈ [0x8000, 0x8001, 0x8002, 0x8003]) : machine.Silent opcode := by
  simp only [List.mem_cons, List.not_mem_nil, or_false] at bits
  rcases bits with adds | copies | joins | meets | differs
  · let row : Row := ⟨.addByte, 0xF000, 0x7000, [.x, .byte]⟩
    have listed : row ∈ instructionTable := by decide
    have command : (row.read opcode).command = .addByte := rfl
    have x : (row.read opcode).x = registerX opcode := Row.x_read rfl opcode
    apply silent_of_executes
    apply executes_of_row listed adds
    intro keyboard
    simp only [execute, command, x]
    rfl
  · have listed : (⟨.copy, 0xF00F, 0x8000, [.x, .y]⟩ : Row) ∈ instructionTable := by decide
    exact silent_of_executes machine <| executes_pair machine listed rfl copies
      (fun x y => machine.setReg x (machine.reg y))
      fun instruction keyboard command => by simp only [execute, command]
  · have listed : (⟨.bitOr, 0xF00F, 0x8001, [.x, .y]⟩ : Row) ∈ instructionTable := by decide
    exact silent_of_executes machine <| executes_pair machine listed rfl joins
      (fun x y => machine.setReg x (machine.reg x ||| machine.reg y))
      fun instruction keyboard command => by simp only [execute, command]
  · have listed : (⟨.bitAnd, 0xF00F, 0x8002, [.x, .y]⟩ : Row) ∈ instructionTable := by decide
    exact silent_of_executes machine <| executes_pair machine listed rfl meets
      (fun x y => machine.setReg x (machine.reg x &&& machine.reg y))
      fun instruction keyboard command => by simp only [execute, command]
  · have listed : (⟨.bitXor, 0xF00F, 0x8003, [.x, .y]⟩ : Row) ∈ instructionTable := by decide
    exact silent_of_executes machine <| executes_pair machine listed rfl differs
      (fun x y => machine.setReg x (machine.reg x ^^^ machine.reg y))
      fun instruction keyboard command => by simp only [execute, command]

end Opcodes

/-- Arithmetic reads both registers as they were, whichever of VX, VY and the flag register are
the same. With `a` and `b` the values of VX and VY, `8XY4` reports the carry of `a + b`; `8XY5`
reports whether `a` exceeds `b`, or is at least as large if the settings say so, and `8XY7`
whether `b` exceeds `a`; `8XY6` and `8XYE` report the bit that is shifted out of `b` or of `a`,
as the settings say. The flag register holds the report in the end, also if it is VX. If it is
not, VX holds the rest of the sum, the difference modulo 256, or what is left of the shifted
byte. No other register changes, and `7XKK` and `8XY0` to `8XY3` change VX alone.

Proof: the flag is stored last, so it is the report, and a VX other than the flag register keeps
the result stored before. Both are computed from the old registers, and each of the five
equations is one about bytes. -/
theorem arithmetic_exact (machine : Machine) (opcode : UInt16) :
    let a := (machine.reg (registerX opcode)).toNat
    let b := (machine.reg (registerY opcode)).toNat
    let source := if machine.settings.shiftUsesVy then b else a
    let exceeds (minuend subtrahend : Nat) : Bool :=
      if machine.settings.borrowFlagOnEqual then subtrahend ≤ minuend else subtrahend < minuend
    let bits := opcode &&& 0xF00F
    (bits = 0x8004 →
      machine.Reports opcode ((a + b) / 256) fun vx vf => 256 * vf + vx = a + b) ∧
    (bits = 0x8005 →
      machine.Reports opcode (exceeds a b).toNat fun vx _ => (vx : Int) = ((a : Int) - b) % 256) ∧
    (bits = 0x8007 →
      machine.Reports opcode (exceeds b a).toNat fun vx _ => (vx : Int) = ((b : Int) - a) % 256) ∧
    (bits = 0x8006 →
      machine.Reports opcode (source % 2) fun vx vf => 2 * vx + vf = source) ∧
    (bits = 0x800E →
      machine.Reports opcode (source / 128) fun vx vf => 256 * vf + vx = 2 * source) ∧
    (opcode &&& 0xF000 = 0x7000 ∨ bits ∈ [0x8000, 0x8001, 0x8002, 0x8003] →
      machine.Silent opcode) := by
  intro a b source exceeds bits
  have read := machine.settings.shiftSource_toNat (machine.reg (registerX opcode))
    (machine.reg (registerY opcode))
  refine ⟨machine.reports_add, machine.reports_subtract, machine.reports_subtractFrom, ?_, ?_,
    machine.silent_of_bits⟩
  · intro shifts
    have reported := machine.reports_shiftRight shifts
    rwa [read] at reported
  · intro shifts
    have reported := machine.reports_shiftLeft shifts
    rwa [read] at reported

/-- A machine with 200 in the flag register. -/
def withLargeFlag : Machine :=
  (boot {} 0 (Vector.replicate 8 0)).setReg flag 200

/-- One opcode of each kind. The flag register gives every operand that is not zero, and for
three of the opcodes also takes the result, which the flag then replaces. -/
theorem flag_as_operand :
    (withLargeFlag.Reports 0x8FF4 1 fun vx vf => 256 * vf + vx = 400) ∧
      (withLargeFlag.Reports 0x80F5 0 fun vx _ => vx = (0 - 200 : Int) % 256) ∧
      (withLargeFlag.Reports 0x80F7 1 fun vx _ => vx = (200 - 0 : Int) % 256) ∧
      (withLargeFlag.Reports 0x8FF6 0 fun vx vf => 2 * vx + vf = 200) ∧
      (withLargeFlag.Reports 0x8FFE 1 fun vx vf => 256 * vf + vx = 400) ∧
      withLargeFlag.Silent 0x80F0 := by
  obtain ⟨adds, -⟩ := arithmetic_exact withLargeFlag 0x8FF4
  obtain ⟨-, subtracts, -⟩ := arithmetic_exact withLargeFlag 0x80F5
  obtain ⟨-, -, subtractsFrom, -⟩ := arithmetic_exact withLargeFlag 0x80F7
  obtain ⟨-, -, -, shiftsRight, -⟩ := arithmetic_exact withLargeFlag 0x8FF6
  obtain ⟨-, -, -, -, shiftsLeft, -⟩ := arithmetic_exact withLargeFlag 0x8FFE
  obtain ⟨-, -, -, -, -, copies⟩ := arithmetic_exact withLargeFlag 0x80F0
  exact ⟨adds (by decide), subtracts (by decide), subtractsFrom (by decide),
    shiftsRight (by decide), shiftsLeft (by decide), copies (by decide)⟩

end Machine

end Chip8
