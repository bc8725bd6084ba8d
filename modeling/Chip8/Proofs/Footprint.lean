import Chip8.Proofs.HeldKeys
import Chip8.Proofs.Transfers

/-!
# What an instruction may write to

Every command has a short list of targets: the result register, the flag register, the
registers that a transfer loads, the index register and the screen. An instruction changes
nothing of these but its targets, and since a command shows in the bits of its opcode, so do
its targets. A key wait completed later writes to the same target as one that found a key at
once, and a cycle that waits for a key changes the waiting instruction alone.
-/

namespace Chip8

/-- The opcodes of a form have the same bits under a mask. -/
structure Form where
  mask : UInt16
  bits : UInt16
  deriving DecidableEq

namespace Form

/-- All opcodes of a row have the form. -/
def Covers (form : Form) (row : Row) : Prop :=
  row.mask &&& form.mask = form.mask ∧ row.pattern &&& form.mask = form.bits

instance (form : Form) (row : Row) : Decidable (form.Covers row) :=
  inferInstanceAs (Decidable (_ ∧ _))

/-- An opcode that a covered row accepts has the bits of the form. -/
theorem bits_of_covers {form : Form} {row : Row} {opcode : UInt16} (covers : form.Covers row)
    (accepted : row.accepts opcode = true) : opcode &&& form.mask = form.bits := by
  obtain ⟨wider, agrees⟩ := covers
  have fixed : opcode &&& row.mask = row.pattern := by
    simpa only [Row.accepts, beq_iff_eq] using accepted
  calc opcode &&& form.mask
    _ = opcode &&& row.mask &&& form.mask := by rw [UInt16.and_assoc, wider]
    _ = form.bits := by rw [fixed, agrees]

end Form

/-- An opcode has one of some forms. -/
def HasForm (forms : List Form) (opcode : UInt16) : Prop :=
  ∃ form ∈ forms, opcode &&& form.mask = form.bits

instance (forms : List Form) (opcode : UInt16) : Decidable (HasForm forms opcode) :=
  inferInstanceAs (Decidable (∃ form ∈ forms, _))

/-- A part of a machine to which instructions write. -/
inductive Target where
  /-- The register VX. -/
  | result
  /-- The flag register. -/
  | flag
  /-- The registers that a transfer moves. -/
  | transferred
  /-- The index register. -/
  | index
  /-- The index register if it follows a transfer. -/
  | following
  /-- The screen with its touched cells. -/
  | screen
  deriving DecidableEq

/-- The forms of the opcodes that write to a target. -/
def Target.forms : Target → List Form
  -- `6XKK`, `7XKK`, `8XY0` to `8XY7`, `8XYE`, `CXKK`, `FX07` and `FX0A`
  | .result =>
    [⟨0xF000, 0x6000⟩, ⟨0xF000, 0x7000⟩, ⟨0xF008, 0x8000⟩, ⟨0xF00F, 0x800E⟩, ⟨0xF000, 0xC000⟩,
      ⟨0xF0FF, 0xF007⟩, ⟨0xF0FF, 0xF00A⟩]
  -- `8XY4` to `8XY7`, `8XYE` and `DXYN`
  | .flag => [⟨0xF00C, 0x8004⟩, ⟨0xF00F, 0x800E⟩, ⟨0xF000, 0xD000⟩]
  -- `FX65`
  | .transferred => [⟨0xF0FF, 0xF065⟩]
  -- `ANNN`, `FX1E` and `FX29`
  | .index => [⟨0xF000, 0xA000⟩, ⟨0xF0FF, 0xF01E⟩, ⟨0xF0FF, 0xF029⟩]
  -- `FX55` and `FX65`
  | .following => [⟨0xF0FF, 0xF055⟩, ⟨0xF0FF, 0xF065⟩]
  -- `00E0` and `DXYN`
  | .screen => [⟨0xFFFF, 0x00E0⟩, ⟨0xF000, 0xD000⟩]

/-- The targets of a command. -/
def Command.targets : Command → List Target
  | .clearScreen => [.screen]
  | .draw => [.screen, .flag]
  | .setByte | .addByte | .copy | .bitOr | .bitAnd | .bitXor | .random | .readDelay
  | .awaitKey => [.result]
  | .add | .subtract | .shiftRight | .subtractFrom | .shiftLeft => [.result, .flag]
  | .setIndex | .addIndex | .setGlyph => [.index]
  | .storeRegisters => [.following]
  | .loadRegisters => [.transferred, .following]
  | .returnFromCall | .jump | .call | .skipIfByte | .skipUnlessByte | .skipIfSame
  | .skipUnlessSame | .jumpOffset | .skipIfKey | .skipUnlessKey | .setDelay | .setSound
  | .storeDecimal => []

namespace Instruction

variable {opcode : UInt16} {instruction : Instruction}

/-- The targets of a decoded instruction show in its opcode. -/
theorem hasForm_of_target (decoded : decode opcode = .ok instruction) {target : Target}
    (writes : target ∈ instruction.command.targets) : HasForm target.forms opcode := by
  have shown : ∀ row ∈ instructionTable, ∀ target ∈ row.command.targets,
      ∃ form ∈ target.forms, form.Covers row := by decide +kernel
  obtain ⟨row, listed, accepted, rfl⟩ := row_of_decode decoded
  obtain ⟨form, known, covers⟩ := shown row listed target writes
  exact ⟨form, known, Form.bits_of_covers covers accepted⟩

/-- The instructions that a host takes for display instructions write to the screen. -/
theorem isDisplay_iff : instruction.isDisplay = true ↔ .screen ∈ instruction.command.targets := by
  unfold isDisplay
  cases instruction.command <;> decide

/-- A decoded instruction that writes to VX, or that loads registers, has the register of the
opcode's second digit. -/
theorem x_of_target (decoded : decode opcode = .ok instruction)
    (writes : .result ∈ instruction.command.targets ∨ .transferred ∈ instruction.command.targets) :
    instruction.x = registerX opcode := by
  have leading : ∀ row ∈ instructionTable,
      .result ∈ row.command.targets ∨ .transferred ∈ row.command.targets →
      row.operands.head? = some .x := by decide +kernel
  obtain ⟨row, listed, accepted, rfl⟩ := row_of_decode decoded
  exact Row.x_read (leading row listed writes) opcode

end Instruction

namespace Machine

/-- One machine has become another by writing to the targets of an instruction only. -/
structure Within (before : Machine) (instruction : Instruction) (after : Machine) : Prop where
  screen : after.screen ≠ before.screen → .screen ∈ instruction.command.targets
  index : after.index ≠ before.index →
    .index ∈ instruction.command.targets ∨
      .following ∈ instruction.command.targets ∧ before.settings.loadStoreIncrementsIndex = true
  registers : ∀ register, after.reg register ≠ before.reg register →
    .result ∈ instruction.command.targets ∧ register = instruction.x ∨
      .flag ∈ instruction.command.targets ∧ register = flag ∨
      .transferred ∈ instruction.command.targets ∧
        register.val < before.settings.transferCount instruction.x
  settings : after.settings = before.settings

section Writes

variable {machine : Machine} {register other : Register}

/-- Only the register that is set can come to differ. -/
theorem eq_of_setReg {value : UInt8}
    (changed : (machine.setReg register value).reg other ≠ machine.reg other) :
    other = register :=
  not_imp_comm.mp (reg_setReg_of_ne machine value) changed

/-- Only the register that is set and VF can come to differ. -/
theorem eq_of_setWithFlag {value flagValue : UInt8}
    (changed : (machine.setWithFlag register value flagValue).reg other ≠ machine.reg other) :
    other = register ∨ other = flag := by
  by_contra neither
  obtain ⟨notResult, notFlag⟩ := not_or.mp neither
  exact changed ((reg_setReg_of_ne _ flagValue notFlag).trans (reg_setReg_of_ne _ value notResult))

/-- Only the registers that are loaded can come to differ. -/
theorem lt_of_loadRegisters {count : Nat}
    (changed : (machine.loadRegisters count).reg register ≠ machine.reg register) :
    register.val < count := by
  by_contra beyond
  exact changed ((reg_loadRegisters machine count register).trans (if_neg beyond))

/-- A transfer moves the index register only if the settings ask for it. -/
theorem following_of_index {count : Nat}
    (changed : machine.settings.indexAfter machine.index count ≠ machine.index) :
    machine.settings.loadStoreIncrementsIndex = true := by
  by_contra still
  exact changed (if_neg still)

end Writes

section Execute

variable {machine after : Machine} {instruction : Instruction} {keyboard : Keyboard}
  {flow : Flow}

/-- The index register is set by three commands and follows the two transfers. -/
theorem execute_index (done : machine.execute instruction keyboard = (after, .ok flow)) :
    after.index =
      match instruction.command with
      | .setIndex => instruction.address
      | .addIndex => machine.index + (machine.reg instruction.x).toUInt16
      | .setGlyph => UInt16.ofNat (Font.address (machine.reg instruction.x).toNat)
      | .storeRegisters | .loadRegisters =>
        machine.settings.indexAfter machine.index
          (machine.settings.transferCount instruction.x)
      | _ => machine.index := by
  unfold execute at done
  cases command : instruction.command <;> simp only [command] at done ⊢ <;>
    (try split at done) <;> cases done <;> rfl

/-- An instruction changes only the registers among its targets. -/
theorem execute_registers (done : machine.execute instruction keyboard = (after, .ok flow))
    {register : Register} (changed : after.reg register ≠ machine.reg register) :
    .result ∈ instruction.command.targets ∧ register = instruction.x ∨
      .flag ∈ instruction.command.targets ∧ register = flag ∨
      .transferred ∈ instruction.command.targets ∧
        register.val < machine.settings.transferCount instruction.x := by
  unfold execute at done
  cases command : instruction.command <;> simp only [command] at done
  case setByte | addByte | copy | bitOr | bitAnd | bitXor | readDelay =>
    cases done
    exact .inl ⟨by decide, eq_of_setReg changed⟩
  case random =>
    cases done
    exact .inl ⟨by decide, @eq_of_setReg { machine with random := _ } _ _ _ changed⟩
  case awaitKey =>
    split at done <;> cases done
    · exact .inl ⟨by decide, eq_of_setReg changed⟩
    · exact absurd rfl changed
  case add | subtract | shiftRight | subtractFrom | shiftLeft =>
    cases done
    rcases eq_of_setWithFlag changed with result | flag
    · exact .inl ⟨by decide, result⟩
    · exact .inr (.inl ⟨by decide, flag⟩)
  case draw =>
    cases done
    exact .inr (.inl ⟨by decide, @eq_of_setReg { machine with screen := _ } _ _ _ changed⟩)
  case loadRegisters =>
    cases done
    exact .inr (.inr ⟨by decide, lt_of_loadRegisters changed⟩)
  all_goals
    (try split at done) <;> cases done
    exact absurd rfl changed

/-- An instruction writes to its targets only. -/
theorem execute_within (done : machine.execute instruction keyboard = (after, .ok flow)) :
    machine.Within instruction after := by
  refine ⟨?_, ?_, fun register => execute_registers done, (execute_kept done).settings⟩
  · intro changed
    rw [execute_screen done] at changed
    cases command : instruction.command <;> simp only [command] at changed
    case clearScreen | draw => decide
    all_goals exact absurd rfl changed
  · intro changed
    rw [execute_index done] at changed
    cases command : instruction.command <;> simp only [command] at changed
    case setIndex | addIndex | setGlyph => exact .inl (by decide)
    case storeRegisters | loadRegisters => exact .inr ⟨by decide, following_of_index changed⟩
    all_goals exact absurd rfl changed

end Execute

section Cycles

variable {machine after : Machine} {instruction : Instruction}

/-- What a cycle does once its instruction is executed writes to no target. -/
theorem Within.finish (within : machine.Within instruction after) (now : Instant) (flow : Flow) :
    machine.Within instruction ((after.countDown now).advance flow) := by
  have core := sameCore_finish after now flow
  have registers (register : Register) :
      ((after.countDown now).advance flow).reg register = after.reg register :=
    congrArg (·.get register) core.registers
  constructor
  · rw [core.screen]
    exact within.screen
  · rw [core.index]
    exact within.index
  · intro register
    rw [registers]
    exact within.registers register
  · rw [core.settings]
    exact within.settings

/-- A key wait that receives its key writes to the register that it names. -/
theorem received_within (awaits : instruction.command = .awaitKey) (key : Key) (now : Instant) :
    machine.Within instruction (machine.received instruction key now) := by
  refine ⟨fun changed => absurd rfl changed, fun changed => absurd rfl changed, ?_, rfl⟩
  intro register changed
  exact .inl ⟨by rw [awaits]; decide, eq_of_setReg changed⟩

variable (machine : Machine) (keyboard : Keyboard) (now : Readings) (sound : machine.WaitsDecoded)
include sound

/-- A cycle that completes an instruction writes to the targets of the instruction only, and
leaves a running machine that waits for nothing. -/
theorem cycle_within
    (executed : (machine.cycle keyboard now).result = .ok (.executed instruction)) :
    let after := (machine.cycle keyboard now).machine
    Instruction.decode instruction.opcode = .ok instruction ∧
      machine.Within instruction after ∧ after.waiting = none ∧ after.halted = false := by
  generalize outcome : machine.cycle keyboard now = transition at executed ⊢
  have course := outcome ▸ cycle_course machine keyboard now
  cases course with
  | halted | waiting | unknown | refused | blocked => cases executed
  | resumed awaited key running waits pressed =>
    cases executed
    obtain ⟨decoded, awaits⟩ := sound instruction waits
    have core := sameCore_finish (machine.received instruction key now.resumed) now.counted .next
    exact ⟨decoded, (received_within awaits key now.resumed).finish now.counted .next, core.waiting,
      core.halted.trans running⟩
  | executed done after flow running free decoded reached moves =>
    cases executed
    have core := sameCore_finish after now.counted flow
    have kept := execute_kept reached
    have opcode := Instruction.opcode_of_decode decoded
    exact ⟨opcode.symm ▸ decoded, (execute_within reached).finish now.counted flow,
      core.waiting.trans (kept.waiting.trans free), core.halted.trans (kept.halted.trans running)⟩

/-- A cycle that waits for a key changes nothing but the waiting instruction, which is then a
decoded key wait. -/
theorem cycle_waiting_only (waits : (machine.cycle keyboard now).result = .ok .waitingForKey) :
    ∃ instruction, Instruction.decode instruction.opcode = .ok instruction ∧
      instruction.command = .awaitKey ∧
      (machine.cycle keyboard now).machine = { machine with waiting := some instruction } := by
  generalize outcome : machine.cycle keyboard now = transition at waits ⊢
  have course := outcome ▸ cycle_course machine keyboard now
  cases course with
  | halted | unknown | refused | resumed | executed => cases waits
  | waiting instruction running awaited released =>
    obtain ⟨decoded, awaits⟩ := sound instruction awaited
    exact ⟨instruction, decoded, awaits, by rw [← awaited]⟩
  | blocked instruction running free decoded awaits released =>
    have opcode := Instruction.opcode_of_decode decoded
    exact ⟨instruction, opcode.symm ▸ decoded, awaits, rfl⟩

end Cycles

/-- A cycle changes no more than its opcode says. Take any state that a machine can reach and
any keys held. If a cycle completes an instruction, the screen with its touched cells stays
unless it is a display instruction; the index register stays unless the opcode sets it, or is a
transfer and the settings let the index register follow; a register stays unless the opcode
gives its result in it, reports in it as the flag, or loads it from memory; the machine then
waits for nothing, is not halted and has the same settings. If a cycle waits for a key, only the
waiting instruction can differ, and it is an `FX0A`.

Proof: each command writes to its targets only, and the targets of a command show in the bits of
its opcode. A machine waits on decoded key waits only, and completing one later writes to the
same register. -/
theorem changes_within_footprint (settings : Settings) (start : Instant)
    (entropy : Random.StreamKey) (actions : List Action) (keyboard : Keyboard) (now : Readings) :
    let machine := (boot settings start entropy).run actions
    let transition := machine.cycle keyboard now
    let after := transition.machine
    (∀ instruction, transition.result = .ok (.executed instruction) →
      let opcode := instruction.opcode
      let x := registerX opcode
      Instruction.decode opcode = .ok instruction ∧
      (after.screen ≠ machine.screen →
        instruction.isDisplay = true ∧ HasForm Target.screen.forms opcode) ∧
      (after.index ≠ machine.index →
        HasForm Target.index.forms opcode ∨
        HasForm Target.following.forms opcode ∧
          machine.settings.loadStoreIncrementsIndex = true) ∧
      (∀ register, after.reg register ≠ machine.reg register →
        HasForm Target.result.forms opcode ∧ register = x ∨
        HasForm Target.flag.forms opcode ∧ register = flag ∨
        HasForm Target.transferred.forms opcode ∧
          register.val < machine.settings.transferCount x) ∧
      after.waiting = none ∧ after.halted = false ∧ after.settings = machine.settings) ∧
    (transition.result = .ok .waitingForKey →
      ∃ instruction, Instruction.decode instruction.opcode = .ok instruction ∧
        instruction.opcode &&& 0xF0FF = 0xF00A ∧
        after = { machine with waiting := some instruction }) := by
  intro machine transition after
  have sound : machine.WaitsDecoded := run_waitsDecoded settings start entropy actions
  constructor
  · intro instruction executed opcode x
    obtain ⟨decoded, within, free, running⟩ := cycle_within machine keyboard now sound executed
    refine ⟨decoded, ?_, ?_, ?_, free, running, within.settings⟩
    · intro changed
      have draws := within.screen changed
      exact ⟨Instruction.isDisplay_iff.mpr draws, Instruction.hasForm_of_target decoded draws⟩
    · intro changed
      rcases within.index changed with sets | ⟨moves, switch⟩
      · exact .inl (Instruction.hasForm_of_target decoded sets)
      · exact .inr ⟨Instruction.hasForm_of_target decoded moves, switch⟩
    · intro register changed
      rcases within.registers register changed with
        ⟨sets, named⟩ | ⟨reports, named⟩ | ⟨loads, below⟩
      · have operand : instruction.x = x := Instruction.x_of_target decoded (.inl sets)
        exact .inl ⟨Instruction.hasForm_of_target decoded sets, named.trans operand⟩
      · exact .inr (.inl ⟨Instruction.hasForm_of_target decoded reports, named⟩)
      · have operand : instruction.x = x := Instruction.x_of_target decoded (.inr loads)
        exact .inr (.inr ⟨Instruction.hasForm_of_target decoded loads, operand ▸ below⟩)
  · intro waits
    obtain ⟨instruction, decoded, awaits, same⟩ :=
      cycle_waiting_only machine keyboard now sound waits
    exact ⟨instruction, decoded, (Instruction.command_iff awaitKey_listed decoded).mp awaits, same⟩

/-- A machine with all switches on after some cycles of a program that waits for a key and then
loads two registers. -/
def waitThenLoad (keyboards : List Keyboard) : Machine :=
  (boot .legacy 0 (Vector.replicate 8 0)).run
    (.load [0xF3, 0x0A, 0xF1, 0x65] :: keyboards.map (.cycle · (.still 0)))

/-- While no key is held only the waiting instruction can differ. The key goes to V3 and leaves
the other registers alone. The transfer leaves the registers behind V1 alone, V3 with the key
among them. -/
theorem load_keeps_key :
    let pressed : Keyboard := .ofList [7]
    let waiting := waitThenLoad [.idle]
    let ready := waitThenLoad [.idle, pressed]
    ((waiting.cycle .idle (.still 0)).result = .ok .waitingForKey ∧
      ∃ instruction, instruction.opcode &&& 0xF0FF = 0xF00A ∧
        (waiting.cycle .idle (.still 0)).machine = { waiting with waiting := some instruction }) ∧
    ((waiting.cycle pressed (.still 0)).result = .ok (.executed ⟨.awaitKey, 0xF30A, 3, 0, 0⟩) ∧
      ∀ register ≠ 3,
        (waiting.cycle pressed (.still 0)).machine.reg register = waiting.reg register) ∧
    ((ready.cycle .idle (.still 0)).result = .ok (.executed ⟨.loadRegisters, 0xF165, 1, 0, 0⟩) ∧
      ∀ register, 1 < register.val →
        (ready.cycle .idle (.still 0)).machine.reg register = ready.reg register) := by
  intro pressed waiting ready
  have registers (keyboards : List Keyboard) (keyboard : Keyboard) (instruction : Instruction)
      (executed : ((waitThenLoad keyboards).cycle keyboard (.still 0)).result =
        .ok (.executed instruction))
      (register : Register)
      (unloaded : ¬ (HasForm Target.transferred.forms instruction.opcode ∧ register.val <
        (waitThenLoad keyboards).settings.transferCount (registerX instruction.opcode)))
      (unset : ¬ (HasForm Target.result.forms instruction.opcode ∧
        register = registerX instruction.opcode))
      (unflagged : ¬ HasForm Target.flag.forms instruction.opcode) :
      ((waitThenLoad keyboards).cycle keyboard (.still 0)).machine.reg register =
        (waitThenLoad keyboards).reg register := by
    obtain ⟨completed, -⟩ := changes_within_footprint .legacy 0 (Vector.replicate 8 0) _ keyboard
      (.still 0)
    obtain ⟨-, -, -, changes, -⟩ := completed instruction executed
    by_contra changed
    rcases changes register changed with result | ⟨reports, -⟩ | loaded
    · exact unset result
    · exact unflagged reports
    · exact unloaded loaded
  have waits : (waiting.cycle .idle (.still 0)).result = .ok .waitingForKey := by decide +kernel
  have resumes : (waiting.cycle pressed (.still 0)).result =
      .ok (.executed ⟨.awaitKey, 0xF30A, 3, 0, 0⟩) := by decide +kernel
  have loads : (ready.cycle .idle (.still 0)).result =
      .ok (.executed ⟨.loadRegisters, 0xF165, 1, 0, 0⟩) := by decide +kernel
  have count : ready.settings.transferCount 1 = 2 := by decide +kernel
  refine ⟨⟨waits, ?_⟩, ⟨resumes, ?_⟩, ⟨loads, ?_⟩⟩
  · obtain ⟨-, blocked⟩ := changes_within_footprint .legacy 0 (Vector.replicate 8 0) _ .idle
      (.still 0)
    obtain ⟨instruction, -, awaits, same⟩ := blocked waits
    exact ⟨instruction, awaits, same⟩
  · intro register other
    apply registers [.idle] pressed _ resumes register
    · exact fun loaded => absurd loaded.1 (by decide)
    · exact fun result => other result.2
    · decide
  · intro register behind
    apply registers [.idle, pressed] .idle _ loads register
    · exact fun loaded => absurd (loaded.2.trans_eq count) (Nat.not_lt.mpr behind)
    · exact fun result => absurd result.1 (by decide)
    · decide

end Machine

end Chip8
