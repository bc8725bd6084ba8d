import Mathlib.Data.List.Induction
import Chip8.Proofs.Waiting

/-!
# Random bytes

A stream hands out the words of its key in the order of their index, whatever of the
current block is pending. Of all that can happen to a machine only a completed `CXKK`
takes a word, and it takes exactly one, so the number of those completed so far is the
index of the next word. The random bytes of a run depend on the seed and on nothing else
that the machine does.
-/

namespace Chip8

namespace Random

/-- The words of a key by their index: sixteen to a block, in the order of the blocks.
Block numbers wrap around at 2⁶⁴. -/
def word (key : StreamKey) (index : Nat) : UInt32 :=
  (block key (UInt64.ofNat (index / 16))).get ⟨index % 16, Nat.mod_lt index (by decide)⟩

namespace Stream

/-- The stream of a key once `count` of its words were taken. Between two blocks nothing is
pending; within one the block has been produced and its first words are gone. -/
def after (key : StreamKey) (count : Nat) : Stream :=
  if count % 16 = 0 then ⟨key, UInt64.ofNat (count / 16), []⟩
  else
    ⟨key, UInt64.ofNat (count / 16 + 1),
      (block key (UInt64.ofNat (count / 16))).toList.drop (count % 16)⟩

/-- Before anything is taken, a stream is at its beginning. -/
theorem after_zero (key : StreamKey) : after key 0 = ofKey key := rfl

/-- Taking a word gives the one that is due and moves on by one. -/
theorem next_after (key : StreamKey) (count : Nat) :
    (after key count).next = (word key count, after key (count + 1)) := by
  have inside : count % 16 < 16 := Nat.mod_lt count (by decide)
  by_cases fresh : count % 16 = 0
  · -- Nothing is pending: the block is produced and its first word taken.
    have number : (count + 1) / 16 = count / 16 := by omega
    have offset : (count + 1) % 16 = 1 := by omega
    simp only [after, fresh, number, offset, if_true, next, word, UInt64.ofNat_add, List.drop_one]
    rfl
  · have pending : (block key (UInt64.ofNat (count / 16))).toList.drop (count % 16) =
        word key count ::
          (block key (UInt64.ofNat (count / 16))).toList.drop (count % 16 + 1) :=
      List.drop_eq_getElem_cons (by simpa using inside)
    have taken : (after key count).next = (word key count,
        ⟨key, UInt64.ofNat (count / 16 + 1),
          (block key (UInt64.ofNat (count / 16))).toList.drop (count % 16 + 1)⟩) := by
      simp only [after, fresh, if_false, next, pending]
    rw [taken]
    by_cases last : count % 16 = 15
    · -- The last word of the block is taken, and the next block is due.
      have number : (count + 1) / 16 = count / 16 + 1 := by omega
      have offset : (count + 1) % 16 = 0 := by omega
      simp [after, number, offset, last]
    · have number : (count + 1) / 16 = count / 16 := by omega
      have offset : (count + 1) % 16 = count % 16 + 1 := by omega
      simp [after, number, offset]

/-- The last word of the first ChaCha20 block under the zero key. -/
example : (block (Vector.replicate 8 0) 0).get 15 = 0x8665eeb2 := by decide +kernel

end Stream

end Random

/-- Whether an opcode is a `CXKK`. -/
def isRandomOpcode (opcode : UInt16) : Bool :=
  opcode &&& 0xF000 == 0xC000

/-- Whether a `CXKK` was completed, with whatever mask. -/
def Moment.isRandom (moment : Moment) : Bool :=
  moment.executed.any (isRandomOpcode ·.opcode)

/-- The random byte that a completed `CXKK` took, before it was masked. -/
def Moment.randomByte? (moment : Moment) : Option UInt8 :=
  if moment.isRandom then some moment.before.random.nextByte.1 else none

/-- The random bytes that were taken in a history, in order. -/
def randomBytes (history : List Moment) : List UInt8 :=
  history.filterMap Moment.randomByte?

namespace Instruction

variable {opcode : UInt16} {instruction : Instruction}

/-- The one row of the table with the bits of a `CXKK`. -/
theorem random_listed :
    (⟨.random, 0xF000, 0xC000, [.x, .byte]⟩ : Row) ∈ instructionTable := by decide

/-- Of the decoded instructions exactly the random bytes have an opcode `CXKK`. -/
theorem random_iff (decoded : decode opcode = .ok instruction) :
    isRandomOpcode instruction.opcode = true ↔ instruction.command = .random := by
  rw [opcode_of_decode decoded, isRandomOpcode, beq_iff_eq]
  exact (command_iff random_listed decoded).symm

/-- The operands of a random byte are X and KK. -/
theorem random_operands (decoded : decode opcode = .ok instruction)
    (random : instruction.command = .random) :
    instruction.x = registerX instruction.opcode ∧
      instruction.byte = instruction.opcode.toUInt8 := by
  rw [opcode_of_decode decoded]
  exact ⟨x_of_decode random_listed rfl decoded random,
    byte_of_decode random_listed rfl decoded random⟩

end Instruction

/-- What a moment does with the random stream: a completed `CXKK` takes one word and
stores its lowest byte masked, and nothing else takes any. -/
structure Moment.TakesRandom (moment : Moment) : Prop where
  stream : moment.after.random =
    if moment.isRandom then moment.before.random.next.2 else moment.before.random
  stored : ∀ instruction, moment.executed = some instruction →
    isRandomOpcode instruction.opcode = true →
    moment.after.reg (registerX instruction.opcode) =
      instruction.opcode.toUInt8 &&& moment.before.random.next.1.toUInt8

namespace Moment

/-- A moment in which no `CXKK` was completed and the stream was kept. -/
theorem takesRandom_kept {moment : Moment} (other : moment.isRandom = false)
    (kept : moment.after.random = moment.before.random) : moment.TakesRandom := by
  constructor
  · rw [other]
    exact kept
  · intro instruction executed random
    simp [isRandom, executed, random] at other

/-- A moment in which a `CXKK` was completed. -/
theorem takesRandom_taken {moment : Moment} {instruction : Instruction}
    (executed : moment.executed = some instruction)
    (random : isRandomOpcode instruction.opcode = true)
    (taken : moment.after.random = moment.before.random.next.2)
    (stored : moment.after.reg (registerX instruction.opcode) =
      instruction.opcode.toUInt8 &&& moment.before.random.next.1.toUInt8) :
    moment.TakesRandom := by
  constructor
  · have counted : moment.isRandom = true := by simp [isRandom, executed, random]
    rw [if_pos counted]
    exact taken
  · intro other same _
    obtain rfl : instruction = other := Option.some.inj (executed.symm.trans same)
    exact stored

end Moment

namespace Machine

/-- Every action of a machine that waits on nothing but decoded key waits takes from the
stream what a completed `CXKK` takes. -/
theorem act_takesRandom (machine : Machine) (action : Action) (sound : machine.WaitsDecoded) :
    (machine.act action).TakesRandom := by
  cases action with
  | cycle keyboard now =>
    obtain ⟨transition, course, acted⟩ := act_course machine keyboard now
    rw [acted]
    cases course with
    | halted | waiting | unknown | refused | blocked => exact Moment.takesRandom_kept rfl rfl
    | resumed instruction key running awaited pressed =>
      obtain ⟨decoded, awaits⟩ := sound instruction awaited
      have other : isRandomOpcode instruction.opcode = false := by
        apply Bool.eq_false_iff.mpr
        rw [Ne, Instruction.random_iff decoded, awaits]
        decide
      exact Moment.takesRandom_kept other (sameCore_finish _ now.counted .next).random
    | executed instruction after flow running free decoded done moves =>
      have law := execute_random done
      have finished := sameCore_finish after now.counted flow
      by_cases random : instruction.command = .random
      · obtain ⟨register, mask⟩ := Instruction.random_operands decoded random
        simp only [random, register, mask] at law
        obtain ⟨taken, stored⟩ := law
        refine Moment.takesRandom_taken rfl ((Instruction.random_iff decoded).mpr random)
          (finished.random.trans taken) ?_
        rw [reg, finished.registers, UInt8.and_comm]
        exact stored
      · have other : isRandomOpcode instruction.opcode = false := by
          apply Bool.eq_false_iff.mpr
          rwa [Ne, Instruction.random_iff decoded]
        have kept : after.random = machine.random := by
          split at law
          · contradiction
          · exact law
        exact Moment.takesRandom_kept other (finished.random.trans kept)
  | load program =>
    apply Moment.takesRandom_kept
    · rw [Moment.isRandom, Moment.executed, answer_load]
      rfl
    · rw [after_load, act_before]
  | pause => exact Moment.takesRandom_kept rfl rfl
  | present => exact Moment.takesRandom_kept rfl rfl

section Runs

variable (settings : Settings) (now : Instant) (entropy : Random.StreamKey)

/-- In a run from its construction every action of a machine follows the law of the
stream. -/
theorem run_takesRandom (actions : List Action) (action : Action) :
    (((boot settings now entropy).run actions).act action).TakesRandom :=
  act_takesRandom _ action (run_waitsDecoded settings now entropy actions)

/-- After every run the number of completed `CXKK` is the index of the word that is due. -/
theorem run_random {key : Random.StreamKey}
    (start : (boot settings now entropy).random = .ofKey key) (actions : List Action) :
    ((boot settings now entropy).run actions).random =
      .after key (((boot settings now entropy).history actions).countP Moment.isRandom) := by
  induction actions using List.reverseRecOn with
  | nil => exact start.trans (Random.Stream.after_zero key).symm
  | append_singleton earlier action inductionHypothesis =>
    have taken := (run_takesRandom settings now entropy earlier action).stream
    rw [act_before, inductionHypothesis, Random.Stream.next_after] at taken
    rw [run_append, history_append, List.countP_append]
    simp only [run, history, List.countP_singleton, taken]
    split <;> rfl

/-- The random bytes of a run are those of the first words, one for each completed
`CXKK`. -/
theorem run_randomBytes {key : Random.StreamKey}
    (start : (boot settings now entropy).random = .ofKey key) (actions : List Action) :
    randomBytes ((boot settings now entropy).history actions) =
      (List.range (((boot settings now entropy).history actions).countP Moment.isRandom)).map
        fun index => (Random.word key index).toUInt8 := by
  induction actions using List.reverseRecOn with
  | nil => rfl
  | append_singleton earlier action inductionHypothesis =>
    have due := run_random settings now entropy start earlier
    rw [history_append, randomBytes, List.filterMap_append, List.countP_append]
    rw [randomBytes] at inductionHypothesis
    simp only [history, inductionHypothesis, List.countP_singleton, List.filterMap_cons,
      List.filterMap_nil, Moment.randomByte?, act_before, due, Random.Stream.nextByte,
      Random.Stream.next_after]
    cases (((boot settings now entropy).run earlier).act action).isRandom with
    | true => simp [List.range_succ]
    | false => simp

end Runs

/-- Random bytes stay aligned with the stream of the seed. In every run of a machine with
a seed, the completed `CXKK` that follows on `k` others, whatever their masks, stores the
lowest byte of word `k` of the seed's key, masked by KK. It takes this one word from the
stream, and nothing else that can happen takes any. So the random bytes of a run are those
of the first words in order, and of two runs with one seed, whatever else differs between
them, the shorter list of random bytes begins the longer one. -/
theorem random_aligned (settings : Settings) (seed : UInt64) (now : Instant)
    (entropy : Random.StreamKey) (actions : List Action) :
    let history := (boot { settings with seed := some seed } now entropy).history actions
    let byte := fun index => (Random.word (Random.keyOfSeed seed) index).toUInt8
    (∀ earlier moment later instruction, history = earlier ++ moment :: later →
      moment.executed = some instruction → isRandomOpcode instruction.opcode = true →
      moment.after.reg (registerX instruction.opcode) =
        instruction.opcode.toUInt8 &&& byte (earlier.countP Moment.isRandom)) ∧
    (∀ moment ∈ history, moment.after.random =
      if moment.isRandom then moment.before.random.next.2 else moment.before.random) ∧
    randomBytes history = (List.range (history.countP Moment.isRandom)).map byte ∧
    ∀ (otherSettings : Settings) otherNow otherEntropy otherActions,
      let otherHistory :=
        (boot { otherSettings with seed := some seed } otherNow otherEntropy).history otherActions
      randomBytes history <+: randomBytes otherHistory ∨
        randomBytes otherHistory <+: randomBytes history := by
  intro history byte
  have taken : randomBytes history = (List.range (history.countP Moment.isRandom)).map byte :=
    run_randomBytes _ now entropy rfl actions
  refine ⟨?_, ?_, taken, ?_⟩
  · intro earlier moment later instruction cut executed random
    obtain ⟨done, action, rfl, rfl⟩ := act_of_history _ _ _ _ _ cut
    have stored := (run_takesRandom _ now entropy done action).stored instruction executed random
    rw [act_before, run_random _ now entropy rfl done, Random.Stream.next_after] at stored
    exact stored
  · intro moment member
    obtain ⟨earlier, later, cut⟩ := List.append_of_mem member
    obtain ⟨done, action, -, rfl⟩ := act_of_history _ _ _ _ _ cut
    exact (run_takesRandom _ now entropy done action).stream
  · intro otherSettings otherNow otherEntropy otherActions otherHistory
    have otherTaken : randomBytes otherHistory =
        (List.range (otherHistory.countP Moment.isRandom)).map byte :=
      run_randomBytes _ otherNow otherEntropy rfl otherActions
    have begins {fewer more : Nat} (le : fewer ≤ more) :
        (List.range fewer).map byte <+: (List.range more).map byte := by
      obtain ⟨rest, rfl⟩ := Nat.exists_eq_add_of_le le
      rw [List.range_add, List.map_append]
      exact List.prefix_append _ _
    rw [taken, otherTaken]
    exact (Nat.le_total _ _).imp begins begins

/-- Sixteen times `C000`, whose mask lets nothing through, then `F20A` and `C10F`. -/
def maskedThenWaiting : List UInt8 :=
  (List.replicate 16 [0xC0, 0x00]).flatten ++ [0xF2, 0x0A, 0xC1, 0x0F]

/-- Load the program, execute the sixteen, wait for a key, present meanwhile, and press it. -/
def untilSecondBlock (pressed : Keyboard) : List Action :=
  .load maskedThenWaiting ::
    List.replicate 17 (.cycle .idle (.still 0)) ++ [.present, .cycle pressed (.still 0)]

/-- The sixteen random bytes that a zero mask hid have used up the first block, and the key
wait has taken nothing: the next `C10F` stores the first word of the second block, whose
lowest byte is `7A`. -/
theorem random_second_block :
    let machine := boot { seed := some 7 } 0 (Vector.replicate 8 0)
    let actions := untilSecondBlock (.ofList [5])
    let moment := (machine.run actions).act (.cycle .idle (.still 0))
    moment.executed = some ⟨.random, 0xC10F, 1, 0x0F, 0⟩ ∧
    (machine.history actions).countP Moment.isRandom = 16 ∧
    moment.after.reg 1 = 0x0F &&& ((Random.block (Random.keyOfSeed 7) 1).get 0).toUInt8 ∧
    moment.after.reg 1 = 0x0A := by
  intro machine actions moment
  obtain ⟨executed, counted⟩ : moment.executed = some ⟨.random, 0xC10F, 1, 0x0F, 0⟩ ∧
      (machine.history actions).countP Moment.isRandom = 16 := by decide +kernel
  have second : ((Random.block (Random.keyOfSeed 7) 1).get 0).toUInt8 = 0x7A := by
    decide +kernel
  obtain ⟨stored, -⟩ := random_aligned {} 7 0 (Vector.replicate 8 0)
    (actions ++ [.cycle .idle (.still 0)])
  have due := stored (machine.history actions) moment [] _ (history_append machine actions _)
    executed rfl
  rw [counted] at due
  have masked :
      moment.after.reg 1 = 0x0F &&& ((Random.block (Random.keyOfSeed 7) 1).get 0).toUInt8 := due
  refine ⟨executed, counted, masked, ?_⟩
  rw [masked, second]
  decide

end Machine

end Chip8
