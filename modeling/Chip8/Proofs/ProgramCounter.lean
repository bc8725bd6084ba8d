import Chip8.Proofs.Faults
import Chip8.Proofs.Opcodes
import Chip8.Proofs.Waiting

/-!
# Where a program continues

An executed opcode alone says where the program continues, given the registers, the call stack
and the keys as they were before it. Jumps, calls and returns write the program counter; six
opcodes may skip the instruction behind them; all others go on to it. Instructions report a
flow, and the cycle moves the program counter on by it. A key wait that is completed later goes
on like one that found a key at once, and a cycle that completes nothing stays where it is.
-/

namespace Chip8

/-- Of the keys with the number of a byte, the one that the byte names decides. -/
theorem Key.any_numbered {value : UInt8} {key : Key} (named : ofByte value = .ok key)
    (holds : Key → Bool) :
    (all.any fun other => other.val == value.toNat && holds other) = holds key := by
  have number : key.val = value.toNat := by
    unfold ofByte at named
    split at named
    · exact Except.ok.inj named ▸ rfl
    · cases named
  rw [Bool.eq_iff_iff, List.any_eq_true]
  constructor
  · rintro ⟨other, -, found⟩
    simp only [Bool.and_eq_true, beq_iff_eq] at found
    obtain ⟨same, held⟩ := found
    exact Fin.ext (same.trans number.symm) ▸ held
  · intro held
    refine ⟨key, List.mem_finRange key, ?_⟩
    simp [number, held]

namespace Machine

/-- Whether an opcode skips the instruction behind it: `3XKK` and `4XKK` compare VX with a byte,
`5XY0` and `9XY0` with VY, `EX9E` and `EXA1` ask for the key with the number VX, to be down or to
be up. -/
def skips (machine : Machine) (keyboard : Keyboard) (opcode : UInt16) : Bool :=
  let vx := machine.reg (registerX opcode)
  let vy := machine.reg (registerY opcode)
  if opcode &&& 0xF000 = 0x3000 then vx == opcode.toUInt8
  else if opcode &&& 0xF000 = 0x4000 then vx != opcode.toUInt8
  else if opcode &&& 0xF00F = 0x5000 then vx == vy
  else if opcode &&& 0xF00F = 0x9000 then vx != vy
  else if opcode &&& 0xF0FF = 0xE09E then
    Key.all.any fun key => key.val == vx.toNat && keyboard.isDown key
  else if opcode &&& 0xF0FF = 0xE0A1 then
    Key.all.any fun key => key.val == vx.toNat && !keyboard.isDown key
  else false

/-- Where a program continues behind an opcode: at the address of a jump or a call, offset by V0
for `BNNN`; two bytes behind the newest return address for a return; otherwise four bytes on if
the opcode skips, and two bytes on if not. Without a return address there is no place to
continue. -/
def continuation (machine : Machine) (keyboard : Keyboard) (opcode : UInt16) : Option Nat :=
  let address := opcode.toNat % 4096
  if opcode &&& 0xF000 = 0x1000 ∨ opcode &&& 0xF000 = 0x2000 then some address
  else if opcode &&& 0xF000 = 0xB000 then some (address + (machine.reg v0).toNat)
  else if opcode = 0x00EE then
    machine.stack.toList.getLast?.map fun caller => (caller.toNat + 2) % 65536
  else some ((machine.pc.toNat + if machine.skips keyboard opcode then 4 else 2) % 65536)

/-- Where a skip moves the program counter. -/
theorem toNat_pc_skipIf (machine : Machine) (condition : Bool) :
    (machine.advance (.skipIf condition)).pc.toNat =
      (machine.pc.toNat + if condition then 4 else 2) % 65536 := by
  cases condition <;> exact UInt16.toNat_add _ _

section Decoded

variable {opcode : UInt16} {instruction : Instruction}
  (decoded : Instruction.decode opcode = .ok instruction)
include decoded

/-- Six commands can skip, each under its own condition. -/
theorem skips_of_decode (machine : Machine) (keyboard : Keyboard) :
    machine.skips keyboard opcode =
      let vx := machine.reg instruction.x
      let vy := machine.reg instruction.y
      match instruction.command with
      | .skipIfByte => vx == instruction.byte
      | .skipUnlessByte => vx != instruction.byte
      | .skipIfSame => vx == vy
      | .skipUnlessSame => vx != vy
      | .skipIfKey => Key.all.any fun key => key.val == vx.toNat && keyboard.isDown key
      | .skipUnlessKey => Key.all.any fun key => key.val == vx.toNat && !keyboard.isDown key
      | _ => false := by
  have equal : (⟨.skipIfByte, 0xF000, 0x3000, [.x, .byte]⟩ : Row) ∈ instructionTable := by decide
  have unequal : (⟨.skipUnlessByte, 0xF000, 0x4000, [.x, .byte]⟩ : Row) ∈ instructionTable := by
    decide
  have same : (⟨.skipIfSame, 0xF00F, 0x5000, [.x, .y]⟩ : Row) ∈ instructionTable := by decide
  have different : (⟨.skipUnlessSame, 0xF00F, 0x9000, [.x, .y]⟩ : Row) ∈ instructionTable := by
    decide
  have down : (⟨.skipIfKey, 0xF0FF, 0xE09E, [.x]⟩ : Row) ∈ instructionTable := by decide
  have up : (⟨.skipUnlessKey, 0xF0FF, 0xE0A1, [.x]⟩ : Row) ∈ instructionTable := by decide
  -- With the command in place of the bits of the opcode, only the operands are left to compare.
  simp only [skips, ← Instruction.command_iff equal decoded,
    ← Instruction.command_iff unequal decoded, ← Instruction.command_iff same decoded,
    ← Instruction.command_iff different decoded, ← Instruction.command_iff down decoded,
    ← Instruction.command_iff up decoded]
  cases command : instruction.command <;> simp only [if_true, if_false, reduceCtorEq]
  case skipIfByte =>
    rw [Instruction.x_of_decode equal rfl decoded command,
      Instruction.byte_of_decode equal rfl decoded command]
  case skipUnlessByte =>
    rw [Instruction.x_of_decode unequal rfl decoded command,
      Instruction.byte_of_decode unequal rfl decoded command]
  case skipIfSame =>
    rw [Instruction.x_of_decode same rfl decoded command,
      Instruction.y_of_decode same decoded command rfl]
  case skipUnlessSame =>
    rw [Instruction.x_of_decode different rfl decoded command,
      Instruction.y_of_decode different decoded command rfl]
  case skipIfKey => rw [Instruction.x_of_decode down rfl decoded command]
  case skipUnlessKey => rw [Instruction.x_of_decode up rfl decoded command]

/-- Four commands continue at an address, three of them at one that the opcode gives. -/
theorem continuation_of_decode (machine : Machine) (keyboard : Keyboard) :
    machine.continuation keyboard opcode =
      match instruction.command with
      | .jump | .call => some instruction.address.toNat
      | .jumpOffset => some (instruction.address.toNat + (machine.reg v0).toNat)
      | .returnFromCall =>
        machine.stack.toList.getLast?.map fun caller => (caller.toNat + 2) % 65536
      | _ => some (machine.advance (.skipIf (machine.skips keyboard opcode))).pc.toNat := by
  have jumping : (⟨.jump, 0xF000, 0x1000, [.address]⟩ : Row) ∈ instructionTable := by decide
  have calling : (⟨.call, 0xF000, 0x2000, [.address]⟩ : Row) ∈ instructionTable := by decide
  have moving : (⟨.jumpOffset, 0xF000, 0xB000, [.address]⟩ : Row) ∈ instructionTable := by decide
  have returning : (⟨.returnFromCall, 0xFFFF, 0x00EE, []⟩ : Row) ∈ instructionTable := by decide
  have whole : opcode = 0x00EE ↔ instruction.command = .returnFromCall :=
    and_full opcode ▸ (Instruction.command_iff returning decoded).symm
  simp only [continuation, ← Instruction.command_iff jumping decoded,
    ← Instruction.command_iff calling decoded, ← Instruction.command_iff moving decoded,
    whole, toNat_pc_skipIf]
  cases command : instruction.command <;>
    simp only [if_true, if_false, reduceCtorEq, or_true, or_false]
  case jump => rw [Instruction.address_of_decode jumping decoded command rfl]
  case call => rw [Instruction.address_of_decode calling decoded command rfl]
  case jumpOffset => rw [Instruction.address_of_decode moving decoded command rfl]

/-- An executed instruction continues where its opcode says. -/
theorem execute_continuation {machine after : Machine} {keyboard : Keyboard} {flow : Flow}
    (done : machine.execute instruction keyboard = (after, .ok flow)) (moves : flow ≠ .block) :
    machine.continuation keyboard opcode = some (after.advance flow).pc.toNat := by
  have continued := continuation_of_decode decoded machine keyboard
  have skipped := skips_of_decode decoded machine keyboard
  have counter := execute_pc done
  unfold execute at done
  -- Commands without a case of their own go on to the next instruction and skip nothing.
  cases command : instruction.command <;> simp only [command] at done continued skipped counter
  case returnFromCall =>
    obtain ⟨popped, rfl⟩ := counter
    rw [continued, CallStack.toList_pop popped, List.getLast?_concat]
    exact congrArg some (UInt16.toNat_add after.pc 2).symm
  case jump | call =>
    obtain ⟨target, rfl⟩ := counter
    exact continued.trans (congrArg (some ·.toNat) target.symm)
  case jumpOffset =>
    have moving : (⟨.jumpOffset, 0xF000, 0xB000, [.address]⟩ : Row) ∈ instructionTable := by decide
    have address := Instruction.address_of_decode moving decoded command rfl
    have offset : (machine.reg v0).toNat < 256 := UInt8.toNat_lt _
    have sum : (instruction.address + (machine.reg v0).toUInt16).toNat =
        instruction.address.toNat + (machine.reg v0).toNat := by
      rw [UInt16.toNat_add, UInt8.toNat_toUInt16, Nat.mod_eq_of_lt (by omega)]
    obtain ⟨target, rfl⟩ := counter
    rw [continued, ← sum, ← target]
    rfl
  case skipIfKey | skipUnlessKey =>
    cases named : Key.ofByte (machine.reg instruction.x) with
    | error fault => simp [named] at done
    | ok key =>
      simp only [named, Except.ok.injEq, Prod.mk.injEq] at done
      obtain ⟨rfl, rfl⟩ := done
      rw [continued, skipped, Key.any_numbered named]
  case awaitKey =>
    rw [continued, skipped]
    split at done
    · cases done
      rfl
    · cases done
      exact absurd rfl moves
  case setGlyph =>
    split at done <;> cases done
    rw [continued, skipped]
    rfl
  case skipIfByte | skipUnlessByte | skipIfSame | skipUnlessSame =>
    cases done
    rw [continued, skipped]
  all_goals
    cases done
    rw [continued, skipped]
    rfl

end Decoded

/-- A cycle of a machine that waits for nothing but decoded key waits continues where the
executed opcode says: the one at the program counter, or the one the machine has waited on. -/
theorem cycle_continuation (machine : Machine) (keyboard : Keyboard) (now : Readings)
    (sound : machine.WaitsDecoded) {instruction : Instruction}
    (executed : (machine.cycle keyboard now).result = .ok (.executed instruction)) :
    Instruction.decode instruction.opcode = .ok instruction ∧
      (machine.waiting = none ∧ instruction.opcode = machine.fetch ∨
        machine.waiting = some instruction) ∧
      machine.continuation keyboard instruction.opcode =
        some (machine.cycle keyboard now).machine.pc.toNat := by
  generalize outcome : machine.cycle keyboard now = transition at executed ⊢
  have course := outcome ▸ cycle_course machine keyboard now
  cases course with
  | halted | waiting | unknown | refused | blocked => cases executed
  | resumed awaited key running waits pressed =>
    cases executed
    obtain ⟨decoded, awaits⟩ := sound instruction waits
    have moved := pc_finish (machine.received instruction key now.resumed) now.counted .next
    have continued := continuation_of_decode decoded machine keyboard
    have skipped := skips_of_decode decoded machine keyboard
    simp only [awaits] at continued skipped
    rw [skipped] at continued
    exact ⟨decoded, .inr waits, continued.trans (congrArg (some ·.toNat) moved.symm)⟩
  | executed done after flow running free decoded reached moves =>
    cases executed
    have opcode := Instruction.opcode_of_decode decoded
    refine ⟨opcode.symm ▸ decoded, .inl ⟨free, opcode⟩, ?_⟩
    rw [opcode, pc_finish]
    exact execute_continuation decoded reached moves

/-- A cycle that completes no instruction leaves the program counter alone. -/
theorem cycle_pc_incomplete (machine : Machine) (keyboard : Keyboard) (now : Readings)
    (incomplete : ∀ instruction,
      (machine.cycle keyboard now).result ≠ .ok (.executed instruction)) :
    (machine.cycle keyboard now).machine.pc = machine.pc := by
  generalize outcome : machine.cycle keyboard now = transition at incomplete ⊢
  have course := outcome ▸ cycle_course machine keyboard now
  cases course with
  | halted | waiting | unknown | refused | blocked => rfl
  | resumed instruction | executed instruction => exact absurd rfl (incomplete instruction)

/-- The program counter follows the opcodes. Take any state that a machine can reach and any
keys held. If a cycle completes an instruction, it is the decoded opcode of the two bytes at the
program counter, the higher byte first, or the instruction that the machine was waiting on; and
the program counter is then the continuation of its opcode. If the cycle completes nothing, the
program counter stays.

Proof: every command writes the program counter and reports the flow as its opcode asks, and the
cycle moves the program counter on by the flow. A machine waits on decoded key waits only, and
these just go on. -/
theorem program_counter_exact (settings : Settings) (start : Instant)
    (entropy : Random.StreamKey) (actions : List Action) (keyboard : Keyboard) (now : Readings) :
    let machine := (boot settings start entropy).run actions
    let transition := machine.cycle keyboard now
    let pc := machine.pc.toNat
    machine.fetch.toNat = 256 * (machine.memory.bytes[pc % 4096]).toNat +
      (machine.memory.bytes[(pc + 1) % 4096]).toNat ∧
    (∀ instruction, transition.result = .ok (.executed instruction) →
      Instruction.decode instruction.opcode = .ok instruction ∧
      (machine.waiting = none ∧ instruction.opcode = machine.fetch ∨
        machine.waiting = some instruction) ∧
      machine.continuation keyboard instruction.opcode = some transition.machine.pc.toNat) ∧
    ((∀ instruction, transition.result ≠ .ok (.executed instruction)) →
      transition.machine.pc = machine.pc) := by
  intro machine transition pc
  refine ⟨machine.memory.word_toNat pc, ?_, cycle_pc_incomplete machine keyboard now⟩
  intro instruction executed
  exact cycle_continuation machine keyboard now (run_waitsDecoded settings start entropy actions)
    executed

/-- A machine whose program calls `0x204`, where a return stands, and has a key wait behind the
call, after some cycles without a key. -/
def calling (cycles : Nat) : Machine :=
  (boot {} 0 (Vector.replicate 8 0)).run
    (.load [0x22, 0x04, 0xF5, 0x0A, 0x00, 0xEE] :: List.replicate cycles (.cycle .idle (.still 0)))

/-- The return continues behind the call. The key wait stays there while no key is held, and
goes on with one. -/
theorem wait_behind_call :
    let pressed : Keyboard := .ofList [7]
    (((calling 1).cycle .idle (.still 0)).result =
        .ok (.executed ⟨.returnFromCall, 0x00EE, 0, 0, 0⟩) ∧
      ((calling 1).cycle .idle (.still 0)).machine.pc.toNat = 0x202) ∧
    (((calling 2).cycle .idle (.still 0)).result = .ok .waitingForKey ∧
      ((calling 2).cycle .idle (.still 0)).machine.pc = (calling 2).pc) ∧
    (((calling 3).cycle pressed (.still 0)).result =
        .ok (.executed ⟨.awaitKey, 0xF50A, 5, 0, 0⟩) ∧
      ((calling 3).cycle pressed (.still 0)).machine.pc.toNat = 0x204) := by
  intro pressed
  have continues (cycles : Nat) (keyboard : Keyboard) (instruction : Instruction)
      (executed :
        ((calling cycles).cycle keyboard (.still 0)).result = .ok (.executed instruction)) :
      (calling cycles).continuation keyboard instruction.opcode =
        some ((calling cycles).cycle keyboard (.still 0)).machine.pc.toNat := by
    obtain ⟨-, completed, -⟩ := program_counter_exact {} 0 (Vector.replicate 8 0) _ keyboard
      (.still 0)
    obtain ⟨-, -, continued⟩ := completed instruction executed
    exact continued
  have stays (cycles : Nat)
      (blocks : ((calling cycles).cycle .idle (.still 0)).result = .ok .waitingForKey) :
      ((calling cycles).cycle .idle (.still 0)).machine.pc = (calling cycles).pc := by
    obtain ⟨-, -, incomplete⟩ := program_counter_exact {} 0 (Vector.replicate 8 0) _ .idle
      (.still 0)
    apply incomplete
    intro instruction executed
    exact nomatch blocks.symm.trans executed
  have returns : ((calling 1).cycle .idle (.still 0)).result =
      .ok (.executed ⟨.returnFromCall, 0x00EE, 0, 0, 0⟩) := by decide +kernel
  have blocks : ((calling 2).cycle .idle (.still 0)).result = .ok .waitingForKey := by
    decide +kernel
  have resumes : ((calling 3).cycle pressed (.still 0)).result =
      .ok (.executed ⟨.awaitKey, 0xF50A, 5, 0, 0⟩) := by decide +kernel
  have behindCall : (calling 1).continuation .idle 0x00EE = some 0x202 := by decide +kernel
  have behindWait : (calling 3).continuation pressed 0xF50A = some 0x204 := by decide +kernel
  refine ⟨⟨returns, ?_⟩, ⟨blocks, stays 2 blocks⟩, ⟨resumes, ?_⟩⟩
  · exact Option.some.inj ((continues 1 .idle _ returns).symm.trans behindCall)
  · exact Option.some.inj ((continues 3 pressed _ resumes).symm.trans behindWait)

end Machine

end Chip8
