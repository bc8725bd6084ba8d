import Mathlib.Data.List.Induction
import Chip8.Proofs.Cycle
import Chip8.Proofs.Decoding

/-!
# What a machine waits on

A machine that waits for a key has blocked in some cycle of its run and has waited ever
since. The instruction it waits on was decoded in that cycle, and it is still the one at
the program counter unless a program was loaded meanwhile: neither presenting nor pausing
nor a cycle without a key moves the program counter or writes to memory.
-/

namespace Chip8

/-- Whether a program was loaded; a refused one was not. -/
def Moment.loads (moment : Moment) : Bool :=
  match moment.answer with
  | .loaded none => true
  | _ => false

/-- A wait on an instruction, from the moment it began and through all later ones. -/
structure WaitSince (instruction : Instruction) (blocking : Moment) (later : List Moment) :
    Prop where
  free : blocking.before.waiting = none
  blocked : blocking.answer = .cycled (.ok .waitingForKey)
  lasting : ∀ moment ∈ blocking :: later, moment.after.waiting = some instruction

namespace WaitSince

/-- A wait goes on in a moment that ends with the same instruction waiting. -/
theorem extend {instruction : Instruction} {blocking moment : Moment} {later : List Moment}
    (wait : WaitSince instruction blocking later)
    (waits : moment.after.waiting = some instruction) :
    WaitSince instruction blocking (later ++ [moment]) := by
  refine ⟨wait.free, wait.blocked, ?_⟩
  intro other member
  rw [← List.cons_append, List.mem_append, List.mem_singleton] at member
  rcases member with old | rfl
  · exact wait.lasting other old
  · exact waits

end WaitSince

namespace Machine

/-- What is known of the instruction a machine waits on, if it waits: it is a decoded key
wait, there is a moment in the history since which the machine has waited on it, and with
no program loaded since then it is still the instruction at the program counter. -/
def WaitsSoundly (machine : Machine) (history : List Moment) : Prop :=
  ∀ instruction, machine.waiting = some instruction →
    Instruction.decode instruction.opcode = .ok instruction ∧
    instruction.command = .awaitKey ∧
    ∃ earlier blocking later, history = earlier ++ blocking :: later ∧
      WaitSince instruction blocking later ∧
      ((∀ moment ∈ later, moment.loads = false) → machine.fetch = instruction.opcode)

/-- An action that leaves the wait alone, and unless it loads a program also the opcode at
the program counter. -/
theorem waitsSoundly_kept {machine : Machine} {history : List Moment} (moment : Moment)
    (sound : machine.WaitsSoundly history) (waits : moment.after.waiting = machine.waiting)
    (steady : moment.loads = false → moment.after.fetch = machine.fetch) :
    moment.after.WaitsSoundly (history ++ [moment]) := by
  intro instruction waiting
  obtain ⟨decoded, awaits, earlier, blocking, later, rfl, wait, fetched⟩ :=
    sound instruction (waits.symm.trans waiting)
  refine ⟨decoded, awaits, earlier, blocking, later ++ [moment], ?_, wait.extend waiting, ?_⟩
  · simp only [List.append_assoc, List.cons_append]
  · intro unloaded
    have before : ∀ other ∈ later, other.loads = false := fun other member =>
      unloaded other (List.mem_append_left _ member)
    have last := unloaded moment (List.mem_append_right _ (List.mem_singleton_self moment))
    exact (steady last).trans (fetched before)

/-- Of a machine that does not wait nothing is asked. -/
theorem waitsSoundly_free {machine : Machine} (history : List Moment)
    (free : machine.waiting = none) : machine.WaitsSoundly history := by
  intro instruction waits
  rw [free] at waits
  cases waits

/-- Every action keeps what is known of the wait. -/
theorem act_waitsSoundly (machine : Machine) (action : Action) (history : List Moment)
    (sound : machine.WaitsSoundly history) :
    (machine.act action).after.WaitsSoundly (history ++ [machine.act action]) := by
  cases action with
  | cycle keyboard now =>
    obtain ⟨transition, course, acted⟩ := act_course machine keyboard now
    rw [acted]
    have ready := course.ready
    cases course with
    | halted | waiting => exact waitsSoundly_kept _ sound rfl fun _ => rfl
    | unknown fault running free | refused instruction fault running free =>
      exact waitsSoundly_free _ free
    | resumed instruction | executed instruction =>
      exact waitsSoundly_free _ (ready instruction rfl).2
    | blocked instruction running free decoded awaits released =>
      intro waiting waits
      obtain rfl : instruction = waiting := Option.some.inj waits
      have opcode := Instruction.opcode_of_decode decoded
      refine ⟨opcode ▸ decoded, awaits, history, _, [], rfl, ⟨free, rfl, ?_⟩, fun _ => opcode.symm⟩
      simp only [List.mem_singleton, forall_eq]
  | load program =>
    apply waitsSoundly_kept _ sound
    · rw [after_load]
    · intro refused
      have large : ¬ program.length ≤ Memory.programSize := by
        intro fits
        simp [Moment.loads, fits] at refused
      simp only [after_load, large, if_false]
  | pause => exact waitsSoundly_kept _ sound rfl fun _ => rfl
  | present => exact waitsSoundly_kept _ sound rfl fun _ => rfl

/-- In every run from its construction a machine waits soundly. -/
theorem run_waitsSoundly (settings : Settings) (now : Instant) (entropy : Random.StreamKey)
    (actions : List Action) :
    ((boot settings now entropy).run actions).WaitsSoundly
      ((boot settings now entropy).history actions) := by
  induction actions using List.reverseRecOn with
  | nil => exact waitsSoundly_free _ rfl
  | append_singleton earlier action inductionHypothesis =>
    rw [run_append, history_append]
    exact act_waitsSoundly _ action _ inductionHypothesis

/-- A machine that waits for nothing but decoded key waits. -/
def WaitsDecoded (machine : Machine) : Prop :=
  ∀ instruction, machine.waiting = some instruction →
    Instruction.decode instruction.opcode = .ok instruction ∧ instruction.command = .awaitKey

/-- In every run from its construction a machine waits for decoded key waits. -/
theorem run_waitsDecoded (settings : Settings) (start : Instant) (entropy : Random.StreamKey)
    (actions : List Action) : ((boot settings start entropy).run actions).WaitsDecoded := by
  intro instruction waits
  obtain ⟨decoded, awaits, -⟩ := run_waitsSoundly settings start entropy actions instruction waits
  exact ⟨decoded, awaits⟩

end Machine

end Chip8
