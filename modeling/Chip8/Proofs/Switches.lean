import Chip8.Proofs.Cycle
import Chip8.Proofs.Lockstep

/-!
# Isolated switches

The settings of a machine are read by six instructions only, and even these do not
depend on a switch for all values: a shift reads one register or the other, which is the
same where both hold one value; a difference is flagged differently only where its
operands are equal; and the index register moves on by the number of registers that were
transferred, which may be none. A run that executes no instruction sensitive to a switch
is the same run however that switch is set.

The timers' pace and the random seed are settings too, but they are read only when a
machine is built.
-/

namespace Chip8

namespace Settings

variable {settings other : Settings}

/-- Both ways of flagging a difference agree on operands that are not equal. -/
theorem noBorrow_eq {minuend subtrahend : UInt8}
    (alike : settings.borrowFlagOnEqual = other.borrowFlagOnEqual ∨ minuend ≠ subtrahend) :
    other.noBorrow minuend subtrahend = settings.noBorrow minuend subtrahend := by
  rcases alike with same | unequal
  · simp only [noBorrow, same]
  · have apart : minuend.toNat ≠ subtrahend.toNat := fun equal =>
      unequal (UInt8.toNat_inj.mp equal)
    have strict : subtrahend ≤ minuend ↔ subtrahend < minuend := by
      rw [UInt8.le_iff_toNat_le, UInt8.lt_iff_toNat_lt]
      omega
    simp only [noBorrow, strict, ite_self]

/-- What is shifted depends on its switch only, and not even on that if VX equals VY. -/
theorem shiftSource_eq {vx vy : UInt8}
    (alike : settings.shiftUsesVy = other.shiftUsesVy ∨ vx = vy) :
    other.shiftSource vx vy = settings.shiftSource vx vy := by
  rcases alike with same | same
  · simp only [shiftSource, same]
  · simp only [shiftSource, same, ite_self]

/-- How many registers are moved depends on its switch only. -/
theorem transferCount_eq (same : settings.loadStoreInclusive = other.loadStoreInclusive)
    (x : Register) : other.transferCount x = settings.transferCount x := by
  simp only [transferCount, same]

/-- Where the index register is left depends on its switch only, and not even on that if
nothing is moved. -/
theorem indexAfter_eq {count : Nat}
    (alike : settings.loadStoreIncrementsIndex = other.loadStoreIncrementsIndex ∨ count = 0)
    (index : UInt16) : other.indexAfter index count = settings.indexAfter index count := by
  rcases alike with same | rfl
  · simp only [indexAfter, same]
  · have unmoved : index + UInt16.ofNat 0 = index := UInt16.add_zero index
    simp only [indexAfter, unmoved, ite_self]

end Settings

namespace Machine

/-- Whether an instruction can do something else under other settings: `8XY6` and `8XYE`
on different values, `8XY5` and `8XY7` on equal values, and `FX55` and `FX65` either when
they move a different number of registers or when they move any at all and differ in
whether the index register follows. -/
def isSensitive (machine : Machine) (other : Settings) (instruction : Instruction) : Bool :=
  let settings := machine.settings
  match instruction.command with
  | .shiftRight | .shiftLeft =>
    settings.shiftUsesVy != other.shiftUsesVy &&
      machine.reg instruction.x != machine.reg instruction.y
  | .subtract | .subtractFrom =>
    settings.borrowFlagOnEqual != other.borrowFlagOnEqual &&
      machine.reg instruction.x == machine.reg instruction.y
  | .storeRegisters | .loadRegisters =>
    settings.loadStoreInclusive != other.loadStoreInclusive ||
      settings.loadStoreIncrementsIndex != other.loadStoreIncrementsIndex &&
        settings.transferCount instruction.x != 0
  | _ => false

/-- The machine under other settings. -/
def under (machine : Machine) (other : Settings) : Machine :=
  { machine with settings := other }

/-- A machine under other settings has those settings. -/
@[simp] theorem under_settings (machine : Machine) (other : Settings) :
    (machine.under other).settings = other := rfl

/-- A machine under other settings has the same registers. -/
@[simp] theorem under_reg (machine : Machine) (other : Settings) (register : Register) :
    (machine.under other).reg register = machine.reg register := rfl

variable {machine : Machine} {other : Settings} {instruction : Instruction}

/-- A sensitive instruction never fails and never waits. -/
theorem sensitive_done (sensitive : machine.isSensitive other instruction = true)
    (keyboard : Keyboard) :
    ∃ after, machine.execute instruction keyboard = (after, .ok .next) := by
  unfold isSensitive at sensitive
  unfold execute
  cases command : instruction.command <;> simp only [command] at sensitive ⊢
  case shiftRight | shiftLeft | subtract | subtractFrom | storeRegisters | loadRegisters =>
    exact ⟨_, rfl⟩
  all_goals cases sensitive

/-- A store that moves the index register alike does the same under other settings. -/
theorem storeRegisters_under {count : Nat}
    (alike : machine.settings.loadStoreIncrementsIndex = other.loadStoreIncrementsIndex ∨
      count = 0) :
    (machine.under other).storeRegisters count = (machine.storeRegisters count).under other := by
  have index := Settings.indexAfter_eq alike machine.index
  simp only [storeRegisters, under, index]

/-- A load that moves the index register alike does the same under other settings. -/
theorem loadRegisters_under {count : Nat}
    (alike : machine.settings.loadStoreIncrementsIndex = other.loadStoreIncrementsIndex ∨
      count = 0) :
    (machine.under other).loadRegisters count = (machine.loadRegisters count).under other := by
  have index := Settings.indexAfter_eq alike machine.index
  simp only [loadRegisters, under, index]
  rfl

/-- An instruction that is not sensitive does the same under other settings. -/
theorem execute_under (insensitive : machine.isSensitive other instruction = false)
    (keyboard : Keyboard) :
    (machine.under other).execute instruction keyboard =
      (machine.execute instruction keyboard).map (·.under other) id := by
  unfold isSensitive at insensitive
  unfold execute
  cases command : instruction.command <;>
    simp only [command, under_reg, under_settings, Bool.and_eq_false_iff, Bool.or_eq_false_iff,
      bne_eq_false_iff_eq, beq_eq_false_iff_ne] at insensitive ⊢
  case shiftRight | shiftLeft =>
    rw [Settings.shiftSource_eq insensitive]
    rfl
  case subtract =>
    rw [Settings.noBorrow_eq insensitive]
    rfl
  case subtractFrom =>
    rw [Settings.noBorrow_eq (insensitive.imp_right Ne.symm)]
    rfl
  case storeRegisters =>
    rw [Settings.transferCount_eq insensitive.1, storeRegisters_under insensitive.2]
    rfl
  case loadRegisters =>
    rw [Settings.transferCount_eq insensitive.1, loadRegisters_under insensitive.2]
    rfl
  case returnFromCall =>
    have stack : (machine.under other).stack = machine.stack := rfl
    rw [stack]
    rcases machine.stack.pop with ⟨left, fault | caller⟩ <;> rfl
  case call =>
    have stack : (machine.under other).stack = machine.stack := rfl
    have counter : (machine.under other).pc = machine.pc := rfl
    rw [stack, counter]
    rcases machine.stack.push machine.pc with ⟨left, fault | stored⟩ <;> rfl
  case skipIfKey | skipUnlessKey =>
    cases Key.ofByte (machine.reg instruction.x) <;> rfl
  case awaitKey => cases keyboard.lowest <;> rfl
  case setGlyph =>
    by_cases inside : (machine.reg instruction.x).toNat < 16
    · simp only [inside, if_true]
      rfl
    · simp only [inside, if_false]
      rfl
  all_goals rfl

/-- Timers and program counter do not look at the settings. -/
theorem finish_under (machine : Machine) (other : Settings) (now : Instant) (flow : Flow) :
    ((machine.under other).countDown now).advance flow =
      ((machine.countDown now).advance flow).under other := by
  cases machine with
  | mk memory stack index pc registers screen delay sound clock =>
    cases clock <;> cases flow <;> rfl

/-- A cycle that executes no sensitive instruction does, answers and logs the same under
other settings. An instruction that fails or waits is never sensitive, so only a
completed one needs the assumption. -/
theorem cycle_under (keyboard : Keyboard) (now : Readings)
    (insensitive : ∀ instruction, (machine.cycle keyboard now).result =
      .ok (.executed instruction) → machine.isSensitive other instruction = false) :
    (machine.under other).cycle keyboard now =
      { machine.cycle keyboard now with
        machine := (machine.cycle keyboard now).machine.under other } := by
  generalize outcome : machine.cycle keyboard now = transition at insensitive ⊢
  have course := outcome ▸ cycle_course machine keyboard now
  cases course with
  | halted stopped => exact cycle_halted now stopped
  | waiting instruction running awaited released =>
    exact cycle_waiting now running awaited released
  | resumed instruction key running awaited pressed =>
    rw [← finish_under]
    exact cycle_resumed now running awaited pressed
  | unknown fault running free undecoded => exact cycle_unknown now running free undecoded
  | refused instruction fault running free decoded refused =>
    have failed : machine.execute instruction keyboard = (machine, .error fault) :=
      execute_eq_error_iff.mpr ⟨refused, rfl⟩
    have unaffected : machine.isSensitive other instruction = false := by
      apply Bool.eq_false_iff.mpr
      intro sensitive
      obtain ⟨after, done⟩ := sensitive_done sensitive keyboard
      rw [failed] at done
      cases done
    have otherFailed := execute_under unaffected keyboard
    rw [failed] at otherFailed
    exact cycle_refused now running free decoded (execute_eq_error_iff.mp otherFailed).1
  | blocked instruction running free decoded awaits released =>
    exact cycle_blocked now running free decoded awaits released
  | executed instruction after flow running free decoded done moves =>
    have otherDone := execute_under (insensitive instruction rfl) keyboard
    rw [done] at otherDone
    rw [← finish_under]
    exact cycle_executed now running free decoded otherDone moves

/-- An action that executes no sensitive instruction has the same answer under other
settings and leaves the same machine, except for the settings. -/
theorem act_under (action : Action)
    (insensitive : ∀ instruction ∈ (machine.act action).executed,
      machine.isSensitive other instruction = false) :
    Moment.Matches (fun first second => second = first.under other)
      (machine.act action) ((machine.under other).act action) := by
  cases action with
  | cycle keyboard now =>
    have unaffected : ∀ instruction, (machine.cycle keyboard now).result =
        .ok (.executed instruction) → machine.isSensitive other instruction = false := by
      intro instruction executed
      apply insensitive
      simp only [Moment.executed, act, executed, Option.mem_some_iff]
    have same := cycle_under keyboard now unaffected
    constructor
    · simp only [act, same]
    · simp only [after_cycle, same]
  | load program =>
    constructor
    · rw [answer_load, answer_load]
    · rw [after_load, after_load]
      rfl
  | pause => exact ⟨rfl, rfl⟩
  | present => exact ⟨rfl, rfl⟩

/-- The switches are isolated. Let a run execute no instruction that is sensitive to the
difference between two settings. Then the run of the same machine under the other
settings, with the same keys and the same readings of the clock, gives the same answers,
action by action, and the machines stay equal except for their settings.

Proof: an instruction that is not sensitive does the same under both settings, and
neither the timers nor the program counter look at them. So a cycle does the same,
whatever it reads from the clock, and so does a run by induction on its actions. -/
theorem switches_isolated (machine : Machine) (other : Settings) (actions : List Action)
    (insensitive : ∀ moment ∈ machine.history actions, ∀ instruction ∈ moment.executed,
      moment.before.isSensitive other instruction = false) :
    Lockstep (fun first second => second = { first with settings := other })
      machine { machine with settings := other } actions := by
  refine lockstep_of_kept ?_ machine _ actions rfl insensitive
  rintro first _ action rfl harmless
  rw [act_before] at harmless
  exact act_under action harmless

/-- `8016` on equal registers, `6105`, `8015` on different ones, and `F055`, which moves
no register. -/
def indifferentProgram : List UInt8 :=
  [0x80, 0x16, 0x61, 0x05, 0x80, 0x15, 0xF0, 0x55]

/-- Three of the switches turned make no difference to a run of four of the instructions
they concern. -/
theorem switches_without_effect :
    let machine := boot {} 0 (Vector.replicate 8 0)
    let other : Settings :=
      { shiftUsesVy := true, loadStoreIncrementsIndex := true, borrowFlagOnEqual := true }
    let actions := .load indifferentProgram :: List.replicate 4 (.cycle .idle (.still 0))
    (∀ moment ∈ machine.history actions, ∀ instruction ∈ moment.executed,
      moment.before.isSensitive other instruction = false) ∧
    (machine.run actions).pc = 0x208 ∧
    Lockstep (fun first second => second = { first with settings := other })
      machine { machine with settings := other } actions := by
  intro machine other actions
  have insensitive : ∀ moment ∈ machine.history actions, ∀ instruction ∈ moment.executed,
      moment.before.isSensitive other instruction = false := by decide +kernel
  exact ⟨insensitive, by decide +kernel, switches_isolated machine other actions insensitive⟩

end Machine

end Chip8
