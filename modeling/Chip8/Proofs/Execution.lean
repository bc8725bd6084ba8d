import Chip8.Machine.Execute
import Chip8.Proofs.CallStack

/-!
# What one instruction can do

Each law describes one part of the machine over all thirty-four commands, so that
later arguments about that part need not look at the commands again. The parts that
belong to the cycle (clock, waiting instruction, halted state) and the settings are
never changed by an instruction; the program counter is written by four commands, the
screen by two, the call stack and memory by two each, the random stream by one. Five
can fail, and each of these makes its check before its first write.
-/

namespace Chip8.Machine

variable {machine after : Machine} {instruction : Instruction} {keyboard : Keyboard}
  {flow : Flow} {fault : Fault}

/-- The parts that no instruction changes. -/
structure Kept (before after : Machine) : Prop where
  clock : after.clock = before.clock
  waiting : after.waiting = before.waiting
  halted : after.halted = before.halted
  settings : after.settings = before.settings

/-- Whatever an instruction does, it leaves the parts of the cycle alone. -/
theorem execute_kept (done : machine.execute instruction keyboard = (after, .ok flow)) :
    Kept machine after := by
  unfold execute at done
  cases command : instruction.command <;> simp only [command] at done <;>
    (try split at done) <;> cases done <;> exact ⟨rfl, rfl, rfl, rfl⟩

/-- Only clearing and drawing change the screen. -/
theorem execute_screen (done : machine.execute instruction keyboard = (after, .ok flow)) :
    after.screen =
      match instruction.command with
      | .clearScreen => machine.screen.clear
      | .draw =>
        (machine.screen.drawSprite (machine.reg instruction.x) (machine.reg instruction.y)
          (machine.memory.readMany machine.index.toNat instruction.height)).screen
      | _ => machine.screen := by
  unfold execute at done
  cases command : instruction.command <;> simp only [command] at done ⊢ <;>
    (try split at done) <;> cases done <;> rfl

/-- A call stores its own address and jumps. A return takes the newest address and goes on
behind it. No other instruction touches the stack. -/
theorem execute_stack (done : machine.execute instruction keyboard = (after, .ok flow)) :
    match instruction.command with
    | .call =>
      machine.stack.push machine.pc = (after.stack, .ok ()) ∧
        after.pc = instruction.address ∧ flow = .jump
    | .returnFromCall =>
      machine.stack.pop = (after.stack, .ok after.pc) ∧ flow = .next
    | _ => after.stack = machine.stack := by
  unfold execute at done
  cases command : instruction.command <;> simp only [command] at done
  case call =>
    split at done
    case h_1 stack fault pushed => cases done
    case h_2 stack pushed =>
      cases done
      exact ⟨pushed, rfl, rfl⟩
  case returnFromCall =>
    split at done
    case h_1 stack fault popped => cases done
    case h_2 stack caller popped =>
      cases done
      exact ⟨popped, rfl⟩
  all_goals (try split at done) <;> cases done <;> rfl

/-- Jumps, calls and returns write the program counter, which the other instructions leave
to the cycle. -/
theorem execute_pc (done : machine.execute instruction keyboard = (after, .ok flow)) :
    match instruction.command with
    | .jump | .call => after.pc = instruction.address ∧ flow = .jump
    | .jumpOffset =>
      after.pc = instruction.address + (machine.reg v0).toUInt16 ∧ flow = .jump
    | .returnFromCall => machine.stack.pop = (after.stack, .ok after.pc) ∧ flow = .next
    | _ => after.pc = machine.pc := by
  have stacked := execute_stack done
  unfold execute at done
  cases command : instruction.command <;> simp only [command] at done stacked
  case call => exact stacked.2
  case returnFromCall => exact stacked
  case jump | jumpOffset =>
    cases done
    exact ⟨rfl, rfl⟩
  all_goals (try split at done) <;> cases done <;> rfl

/-- Only two instructions write to memory, both from the index register on: the
decimal digits of VX, or the first registers. -/
theorem execute_memory (done : machine.execute instruction keyboard = (after, .ok flow)) :
    after.memory =
      match instruction.command with
      | .storeDecimal =>
        machine.memory.writeMany machine.index.toNat (decimalDigits (machine.reg instruction.x))
      | .storeRegisters =>
        machine.memory.writeMany machine.index.toNat
          (machine.registers.toList.take (machine.settings.transferCount instruction.x))
      | _ => machine.memory := by
  unfold execute at done
  cases command : instruction.command <;> simp only [command] at done ⊢ <;>
    (try split at done) <;> cases done <;> rfl

/-- A register reads as what it was set to. -/
theorem reg_setReg (machine : Machine) (register : Register) (value : UInt8) :
    (machine.setReg register value).reg register = value :=
  Vector.getElem_set_self register.isLt

/-- Setting a register leaves the others alone. -/
theorem reg_setReg_of_ne (machine : Machine) {register other : Register} (value : UInt8)
    (distinct : other ≠ register) : (machine.setReg register value).reg other = machine.reg other :=
  Vector.getElem_set_ne register.isLt other.isLt fun same => distinct (Fin.ext same.symm)

/-- Only a random byte takes from the random stream. It takes one word, whatever the mask,
and stores the masked lowest byte of it. -/
theorem execute_random (done : machine.execute instruction keyboard = (after, .ok flow)) :
    match instruction.command with
    | .random =>
      after.random = machine.random.next.2 ∧
        after.reg instruction.x = machine.random.next.1.toUInt8 &&& instruction.byte
    | _ => after.random = machine.random := by
  unfold execute at done
  cases command : instruction.command <;> simp only [command] at done ⊢
  case random =>
    cases done
    exact ⟨rfl, reg_setReg _ _ _⟩
  all_goals (try split at done) <;> cases done <;> rfl

/-- Only a key wait that finds no key held blocks, and it does nothing else. -/
theorem execute_block (done : machine.execute instruction keyboard = (after, .ok .block)) :
    instruction.command = .awaitKey ∧ keyboard.lowest = none ∧ after = machine := by
  unfold execute at done
  cases command : instruction.command <;> simp only [command, Flow.skipIf] at done
  case awaitKey =>
    cases lowest : keyboard.lowest with
    | some key => simp [lowest] at done
    | none =>
      simp only [lowest, Prod.mk.injEq, and_true] at done
      exact ⟨rfl, rfl, done.symm⟩
  all_goals (repeat' split at done) <;> cases done

/-- A key wait that does not block stores the lowest held key. -/
theorem execute_awaitKey (done : machine.execute instruction keyboard = (after, .ok flow))
    (awaits : instruction.command = .awaitKey) (moves : flow ≠ .block) :
    ∃ key, keyboard.lowest = some key ∧ after = machine.setReg instruction.x key.toByte := by
  cases lowest : keyboard.lowest with
  | some key =>
    simp only [execute, awaits, lowest, Except.ok.injEq, Prod.mk.injEq] at done
    exact ⟨key, rfl, done.1.symm⟩
  | none =>
    simp only [execute, awaits, lowest, Except.ok.injEq, Prod.mk.injEq] at done
    exact absurd done.2.symm moves

/-- The instructions that fail, each with its fault. -/
inductive Refused (machine : Machine) (instruction : Instruction) : Fault → Prop where
  | underflow (returns : instruction.command = .returnFromCall)
      (vacant : machine.stack.depth = 0) :
      Refused machine instruction .stackUnderflow
  | overflow (calls : instruction.command = .call) (full : machine.stack.depth = 16) :
      Refused machine instruction .stackOverflow
  | key (tests : instruction.command = .skipIfKey ∨ instruction.command = .skipUnlessKey)
      (outside : 15 < (machine.reg instruction.x).toNat) :
      Refused machine instruction (.invalidKey (machine.reg instruction.x))
  | glyph (points : instruction.command = .setGlyph)
      (outside : 15 < (machine.reg instruction.x).toNat) :
      Refused machine instruction (.noGlyph (machine.reg instruction.x))

/-- A byte names no key exactly when it exceeds fifteen. -/
theorem ofByte_eq_error_iff (value : UInt8) :
    Key.ofByte value = .error fault ↔ fault = .invalidKey value ∧ 15 < value.toNat := by
  by_cases inside : value.toNat < 16
  · have within : ¬ 15 < value.toNat := by omega
    simp [Key.ofByte, inside, within]
  · have beyond : 15 < value.toNat := by omega
    simp [Key.ofByte, inside, beyond, eq_comm]

/-- An instruction fails exactly when it is refused, and then it leaves the machine as it was.
Of the five commands that can fail, a call and a return fail in the stack, which is then
unchanged, and the other three look at VX before they write anything. -/
theorem execute_eq_error_iff :
    machine.execute instruction keyboard = (after, .error fault) ↔
      Refused machine instruction fault ∧ after = machine := by
  constructor
  · intro failed
    unfold execute at failed
    cases command : instruction.command <;> simp only [command] at failed
    case returnFromCall =>
      split at failed
      case h_1 stack raised popped =>
        obtain ⟨vacant, rfl, rfl⟩ := CallStack.pop_eq_error_iff.mp popped
        cases failed
        exact ⟨.underflow command vacant, rfl⟩
      case h_2 => cases failed
    case call =>
      split at failed
      case h_1 stack raised pushed =>
        obtain ⟨full, rfl, rfl⟩ := CallStack.push_eq_error_iff.mp pushed
        cases failed
        exact ⟨.overflow command full, rfl⟩
      case h_2 => cases failed
    case skipIfKey | skipUnlessKey =>
      split at failed
      case h_1 raised named =>
        obtain ⟨rfl, outside⟩ := (ofByte_eq_error_iff _).mp named
        cases failed
        exact ⟨.key (by simp [command]) outside, rfl⟩
      case h_2 => cases failed
    case setGlyph =>
      split at failed
      case isTrue => cases failed
      case isFalse beyond =>
        cases failed
        exact ⟨.glyph command (by omega), rfl⟩
    all_goals (try split at failed) <;> cases failed
  · rintro ⟨refused, rfl⟩
    cases refused with
    | underflow returns vacant =>
      have popped := CallStack.pop_eq_error_iff.mpr ⟨vacant, rfl, rfl⟩
      simp [execute, returns, popped]
    | overflow calls full =>
      have pushed : after.stack.push after.pc = (after.stack, .error .stackOverflow) :=
        CallStack.push_eq_error_iff.mpr ⟨full, rfl, rfl⟩
      simp [execute, calls, pushed]
    | key tests outside =>
      have unnamed := (ofByte_eq_error_iff _).mpr ⟨rfl, outside⟩
      rcases tests with tests | tests <;> simp [execute, tests, unnamed]
    | glyph points outside =>
      have beyond : ¬ (after.reg instruction.x).toNat < 16 := by omega
      simp [execute, points, beyond]

end Chip8.Machine
