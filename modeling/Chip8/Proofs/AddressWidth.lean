import Chip8.Proofs.Cycle
import Chip8.Proofs.Lockstep
import Chip8.Proofs.Memory

/-!
# Addresses of twelve bits

The program counter, the index register and the stored return addresses are words of 16
bits, but only their value modulo 4096 can ever be observed. Two machines that agree in
everything else, and in these words modulo 4096, give the same results for every
sequence of actions, and they keep agreeing.

Every sum of addresses wraps around at 2¹⁶, a multiple of the size of memory, and every
access to memory wraps around at the size itself, so the two never disagree about a
byte. The law is shown for each instruction, then for a cycle and then for a run.
-/

namespace Chip8

/-- Two words name the same byte of memory. -/
def SameByte (first second : UInt16) : Prop :=
  first.toNat % 4096 = second.toNat % 4096

instance (first second : UInt16) : Decidable (SameByte first second) :=
  inferInstanceAs (Decidable (first.toNat % 4096 = second.toNat % 4096))

namespace SameByte

/-- Every word names the same byte as itself. -/
theorem refl (address : UInt16) : SameByte address address := rfl

/-- A sum that wraps around at 2¹⁶ is the plain sum modulo 4096. -/
theorem add {first second : UInt16} (same : SameByte first second) (offset : UInt16) :
    SameByte (first + offset) (second + offset) := by
  simp only [SameByte, UInt16.toNat_add] at same ⊢
  omega

end SameByte

namespace CallStack

/-- As many addresses are stored, and slot by slot they name the same bytes. -/
structure Alike (first second : CallStack) : Prop where
  depth : first.depth = second.depth
  slots : ∀ (slot : Nat) (inside : slot < 16), SameByte first.slots[slot] second.slots[slot]

variable {first second : CallStack}

/-- Both stacks take an address, or both fail, and they stay alike. -/
theorem push_alike (alike : first.Alike second) {address other : UInt16}
    (same : SameByte address other) :
    (first.push address).2 = (second.push other).2 ∧
      (first.push address).1.Alike (second.push other).1 := by
  obtain ⟨slots, depth, bound⟩ := first
  obtain ⟨otherSlots, otherDepth, otherBound⟩ := second
  obtain ⟨rfl, congruent⟩ : depth = otherDepth ∧ _ := ⟨alike.depth, alike.slots⟩
  by_cases room : depth < 16
  · simp only [push, room, dite_true]
    refine ⟨trivial, rfl, ?_⟩
    intro slot inside
    by_cases stored : depth = slot
    · simpa [Vector.getElem_set, stored] using same
    · simpa [Vector.getElem_set, stored] using congruent slot inside
  · simp only [push, room, dite_false]
    exact ⟨trivial, rfl, congruent⟩

/-- Two stacks fail in the same way to give up an address, or give up addresses that name the
same byte. -/
inductive SameTaken : Except Fault UInt16 → Except Fault UInt16 → Prop where
  | failed (fault : Fault) : SameTaken (.error fault) (.error fault)
  | taken {caller other : UInt16} (same : SameByte caller other) :
      SameTaken (.ok caller) (.ok other)

/-- Both stacks give up an address, or both fail, and they stay alike. -/
theorem pop_alike (alike : first.Alike second) :
    SameTaken first.pop.2 second.pop.2 ∧ first.pop.1.Alike second.pop.1 := by
  obtain ⟨slots, depth, bound⟩ := first
  obtain ⟨otherSlots, otherDepth, otherBound⟩ := second
  obtain ⟨rfl, congruent⟩ : depth = otherDepth ∧ _ := ⟨alike.depth, alike.slots⟩
  cases depth with
  | zero => exact ⟨.failed _, rfl, congruent⟩
  | succ rest => exact ⟨.taken (congruent rest (by omega)), rfl, congruent⟩

end CallStack

namespace Machine

/-- Two machines that differ at most in their program counters, index registers and
stored return addresses, and in these only by multiples of 4096. -/
structure Alike (first second : Machine) : Prop where
  rest : second =
    { first with pc := second.pc, index := second.index, stack := second.stack }
  pc : SameByte first.pc second.pc
  index : SameByte first.index second.index
  stack : first.stack.Alike second.stack

variable {first second : Machine}

/-- The same opcode stands at both program counters. -/
theorem fetch_alike (alike : Alike first second) : second.fetch = first.fetch := by
  rw [fetch, fetch, alike.rest]
  exact (first.memory.word_congr alike.pc).symm

/-- Moving the index register on keeps it alike, whether or not the settings do so. -/
theorem indexAfter_alike (settings : Settings) {index other : UInt16}
    (same : SameByte index other) (count : Nat) :
    SameByte (settings.indexAfter index count) (settings.indexAfter other count) := by
  unfold Settings.indexAfter
  split
  · exact same.add _
  · exact same

section Transfers

variable {pc index : UInt16} {stack : CallStack} (same : SameByte first.index index)
include same

/-- The rows of a sprite are found from the byte that the index register names. -/
theorem draw_moved (x y : Register) (height : Nat) :
    { first with pc := pc, index := index, stack := stack }.draw x y height =
      { first.draw x y height with pc := pc, index := index, stack := stack } := by
  have rows := first.memory.readMany_congr height same
  simp only [draw, ← rows]
  rfl

/-- Registers are stored from the byte that the index register names. -/
theorem storeRegisters_moved (count : Nat) :
    { first with pc := pc, index := index, stack := stack }.storeRegisters count =
      { first.storeRegisters count with
        pc := pc
        index := first.settings.indexAfter index count
        stack := stack } := by
  have stored := first.memory.writeMany_congr (first.registers.toList.take count) same
  simp only [storeRegisters, ← stored]

/-- Registers are loaded from the byte that the index register names. -/
theorem loadRegisters_moved (count : Nat) :
    { first with pc := pc, index := index, stack := stack }.loadRegisters count =
      { first.loadRegisters count with
        pc := pc
        index := first.settings.indexAfter index count
        stack := stack } := by
  have loaded (register : Register) : first.memory.read (first.index.toNat + register.val) =
      first.memory.read (index.toNat + register.val) :=
    first.memory.read_congr (by unfold SameByte at same; omega)
  simp only [loadRegisters, loaded]
  rfl

end Transfers

/-- An instruction has the same outcome on two machines and leaves them alike. -/
structure SameOutcome (own others : Machine × Except Fault Flow) : Prop where
  machines : Alike own.1 others.1
  outcome : own.2 = others.2

/-- An instruction cannot tell machines apart that are alike: it fails or goes on in the same
way and leaves machines that are alike. Most instructions do not look at the three words at
all; a call stores one of them, a return takes its target from the stack, and six others
compute or use the index register. -/
theorem execute_alike (alike : Alike first second) (instruction : Instruction)
    (keyboard : Keyboard) :
    SameOutcome (first.execute instruction keyboard) (second.execute instruction keyboard) := by
  obtain ⟨rest, pcs, indices, callers⟩ := alike
  generalize second.pc = pc at rest pcs
  generalize second.index = index at rest indices
  generalize second.stack = stack at rest callers
  subst rest
  have registers (register : Register) :
      { first with pc := pc, index := index, stack := stack }.reg register =
        first.reg register := rfl
  unfold execute
  cases instruction.command <;> simp only [registers]
  case returnFromCall =>
    have popped := CallStack.pop_alike callers
    generalize first.stack.pop = own, stack.pop = others at popped ⊢
    obtain ⟨left, outcome⟩ := own
    obtain ⟨otherLeft, otherOutcome⟩ := others
    obtain ⟨taken, callersAfter⟩ := popped
    cases taken with
    | failed fault => exact ⟨⟨rfl, pcs, indices, callersAfter⟩, rfl⟩
    | taken same => exact ⟨⟨rfl, same, indices, callersAfter⟩, rfl⟩
  case call =>
    have pushed := CallStack.push_alike callers pcs
    generalize first.stack.push first.pc = own, stack.push pc = others at pushed ⊢
    obtain ⟨filled, outcome⟩ := own
    obtain ⟨otherFilled, otherOutcome⟩ := others
    obtain ⟨rfl, callersAfter⟩ := pushed
    cases outcome with
    | error fault => exact ⟨⟨rfl, pcs, indices, callersAfter⟩, rfl⟩
    | ok => exact ⟨⟨rfl, .refl _, indices, callersAfter⟩, rfl⟩
  case jump | jumpOffset => exact ⟨⟨rfl, .refl _, indices, callers⟩, rfl⟩
  case setIndex => exact ⟨⟨rfl, pcs, .refl _, callers⟩, rfl⟩
  case addIndex => exact ⟨⟨rfl, pcs, indices.add _, callers⟩, rfl⟩
  case setGlyph =>
    split
    · exact ⟨⟨rfl, pcs, .refl _, callers⟩, rfl⟩
    · exact ⟨⟨rfl, pcs, indices, callers⟩, rfl⟩
  case storeDecimal =>
    have stored := first.memory.writeMany_congr (decimalDigits (first.reg instruction.x)) indices
    rw [stored]
    exact ⟨⟨rfl, pcs, indices, callers⟩, rfl⟩
  case draw =>
    rw [draw_moved indices]
    exact ⟨⟨rfl, pcs, indices, callers⟩, rfl⟩
  case storeRegisters =>
    rw [storeRegisters_moved indices]
    exact ⟨⟨rfl, pcs, indexAfter_alike _ indices _, callers⟩, rfl⟩
  case loadRegisters =>
    rw [loadRegisters_moved indices]
    exact ⟨⟨rfl, pcs, indexAfter_alike _ indices _, callers⟩, rfl⟩
  case skipIfKey | skipUnlessKey =>
    cases Key.ofByte (first.reg instruction.x) <;> exact ⟨⟨rfl, pcs, indices, callers⟩, rfl⟩
  case awaitKey => cases keyboard.lowest <;> exact ⟨⟨rfl, pcs, indices, callers⟩, rfl⟩
  all_goals exact ⟨⟨rfl, pcs, indices, callers⟩, rfl⟩

namespace Alike

/-- Both are halted or neither is. -/
theorem halted (alike : Alike first second) : second.halted = first.halted := by
  rw [alike.rest]

/-- Both wait on the same instruction, if they wait. -/
theorem waiting (alike : Alike first second) : second.waiting = first.waiting := by
  rw [alike.rest]

/-- Whatever becomes of the halted state, if it becomes so of both. -/
theorem withHalted (alike : Alike first second) (stopped : Bool) :
    Alike { first with halted := stopped } { second with halted := stopped } := by
  obtain ⟨rest, pcs, indices, callers⟩ := alike
  rw [rest]
  exact ⟨rfl, pcs, indices, callers⟩

/-- Whatever they wait on, if both wait on it. -/
theorem withWaiting (alike : Alike first second) (awaited : Option Instruction) :
    Alike { first with waiting := awaited } { second with waiting := awaited } := by
  obtain ⟨rest, pcs, indices, callers⟩ := alike
  rw [rest]
  exact ⟨rfl, pcs, indices, callers⟩

/-- A key that ends the wait of both keeps them alike. -/
theorem received (alike : Alike first second) (instruction : Instruction) (key : Key)
    (now : Instant) :
    Alike (first.received instruction key now) (second.received instruction key now) := by
  obtain ⟨rest, pcs, indices, callers⟩ := alike
  rw [rest]
  exact ⟨rfl, pcs, indices, callers⟩

/-- Timers count down alike. -/
theorem countDown (alike : Alike first second) (now : Instant) :
    Alike (first.countDown now) (second.countDown now) := by
  obtain ⟨rest, pcs, indices, callers⟩ := alike
  rw [rest]
  cases first with
  | mk memory stack index pc registers screen delay sound clock =>
    cases clock with
    | none => exact ⟨rfl, pcs, indices, callers⟩
    | some clock => exact ⟨rfl, pcs, indices, callers⟩

/-- The program counters move on alike. -/
theorem advance (alike : Alike first second) (flow : Flow) :
    Alike (first.advance flow) (second.advance flow) := by
  obtain ⟨rest, pcs, indices, callers⟩ := alike
  rw [rest]
  cases flow with
  | next => exact ⟨rfl, pcs.add 2, indices, callers⟩
  | skip => exact ⟨rfl, pcs.add 4, indices, callers⟩
  | jump | block => exact ⟨rfl, pcs, indices, callers⟩

end Alike

/-- A cycle gives the same result on machines that are alike and leaves them alike. -/
theorem cycle_alike (alike : Alike first second) (keyboard : Keyboard) (now : Readings) :
    (first.cycle keyboard now).result = (second.cycle keyboard now).result ∧
      Alike (first.cycle keyboard now).machine (second.cycle keyboard now).machine := by
  generalize outcome : first.cycle keyboard now = transition
  have course := outcome ▸ cycle_course first keyboard now
  have fetched := fetch_alike alike
  cases course with
  | halted stopped =>
    rw [cycle_halted now (alike.halted.trans stopped)]
    exact ⟨rfl, alike⟩
  | waiting instruction running awaited released =>
    rw [cycle_waiting now (alike.halted.trans running) (alike.waiting.trans awaited) released]
    exact ⟨rfl, alike⟩
  | resumed instruction key running awaited pressed =>
    have received := alike.received instruction key now.resumed
    rw [cycle_resumed now (alike.halted.trans running) (alike.waiting.trans awaited) pressed]
    exact ⟨rfl, (received.countDown now.counted).advance .next⟩
  | unknown fault running free undecoded =>
    rw [cycle_unknown now (alike.halted.trans running) (alike.waiting.trans free)
      (fetched ▸ undecoded)]
    exact ⟨rfl, alike.withHalted true⟩
  | refused instruction fault running free decoded refused =>
    have failed : first.execute instruction keyboard = (first, .error fault) :=
      execute_eq_error_iff.mpr ⟨refused, rfl⟩
    have executions := execute_alike alike instruction keyboard
    rcases otherDone : second.execute instruction keyboard with ⟨other, same⟩
    rw [failed, otherDone] at executions
    obtain ⟨-, rfl⟩ := executions
    obtain ⟨otherRefused, -⟩ := execute_eq_error_iff.mp otherDone
    rw [cycle_refused now (alike.halted.trans running) (alike.waiting.trans free)
      (fetched ▸ decoded) otherRefused]
    exact ⟨rfl, alike.withHalted true⟩
  | blocked instruction running free decoded awaits released =>
    rw [cycle_blocked now (alike.halted.trans running) (alike.waiting.trans free)
      (fetched ▸ decoded) awaits released]
    exact ⟨rfl, alike.withWaiting (some instruction)⟩
  | executed instruction after flow running free decoded done moves =>
    have executions := execute_alike alike instruction keyboard
    rcases otherDone : second.execute instruction keyboard with ⟨other, same⟩
    rw [done, otherDone] at executions
    obtain ⟨machines, rfl⟩ := executions
    rw [cycle_executed now (alike.halted.trans running) (alike.waiting.trans free)
      (fetched ▸ decoded) otherDone moves]
    exact ⟨rfl, (machines.countDown now.counted).advance flow⟩

/-- Every action gives the same answer on machines that are alike and leaves them alike. -/
theorem act_alike (alike : Alike first second) (action : Action) :
    Moment.Matches Alike (first.act action) (second.act action) := by
  cases action with
  | cycle keyboard now =>
    obtain ⟨result, after⟩ := cycle_alike alike keyboard now
    exact ⟨congrArg Answer.cycled result, after⟩
  | load program =>
    obtain ⟨rest, pcs, indices, callers⟩ := alike
    constructor
    · rw [answer_load, answer_load]
    · rw [after_load, after_load, rest]
      exact ⟨rfl, pcs, indices, callers⟩
  | pause => exact ⟨rfl, alike.withHalted true⟩
  | present =>
    obtain ⟨rest, pcs, indices, callers⟩ := alike
    rw [rest]
    exact ⟨rfl, rfl, pcs, indices, callers⟩

/-- Program counter, index register and return addresses are observably twelve bits wide.
Let two machines be equal except that these words need only be congruent modulo 4096.
Whatever is done to both, they give the same answers, cycle by cycle the same executed
instruction, wait, halt or fault, and after every action they are again equal but for
multiples of 4096 in these words. This holds whatever the keys and the readings of the
clock are, as long as both machines get the same.

Proof: an instruction fails alike on both machines or leaves machines that are alike, by
cases on the command. Fetching, the timers, their clock and the moves of the program
counter keep them alike, and so does each action. A run does by induction. -/
theorem addresses_twelve_bits (first second : Machine) (actions : List Action)
    (alike : Alike first second) : Lockstep Alike first second actions :=
  lockstep_of_kept (fun _ _ action related _ => act_alike related action) first second actions
    alike fun _ _ => trivial

/-- A subroutine called from `0x204` that has reached the last two bytes of memory. There
`F555` stores five registers from the last byte on, so that the program continues at the
beginning of memory with what was stored: `6A05`, then the return `00EE`. -/
def atLastBytes : Machine :=
  { boot {} 0 (Vector.replicate 8 0) with
    memory := Memory.initial.writeMany 0xFFE [0xF5, 0x55]
    stack := (CallStack.empty.push 0x204).1
    index := 0x0FFF
    pc := 0x0FFE
    registers := #v[1, 0x6A, 0x05, 0x00, 0xEE, 0, 0, 0, 0, 0, 0, 0, 0, 0, 0, 0] }

/-- The same with words that differ by multiples of 4096; this program counter and this
index register wrap around at 2¹⁶ as well. -/
def atLastBytesAbove : Machine :=
  { atLastBytes with
    stack := ({ CallStack.empty with slots := Vector.replicate 16 0x1000 }.push 0x5204).1
    index := 0xFFFF
    pc := 0xFFFE }

/-- Beyond the end of memory the two answer alike: the store, what it has stored, the
return and the fault behind the call. -/
theorem addresses_past_memory :
    Alike atLastBytes atLastBytesAbove ∧
      Lockstep Alike atLastBytes atLastBytesAbove (List.replicate 4 (.cycle .idle (.still 0))) ∧
      (atLastBytes.run (List.replicate 3 (.cycle .idle (.still 0)))).pc = 0x206 ∧
      (atLastBytesAbove.run (List.replicate 3 (.cycle .idle (.still 0)))).pc = 0x5206 := by
  have alike : Alike atLastBytes atLastBytesAbove :=
    ⟨rfl, by decide, by decide, rfl, by decide⟩
  exact ⟨alike, addresses_twelve_bits _ _ _ alike, by decide +kernel, by decide +kernel⟩

end Machine

end Chip8
