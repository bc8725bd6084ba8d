import Chip8.Proofs.Halting
import Chip8.Proofs.Timers

/-!
# The log of a run

The log is a ledger of the run. Its records, counted by message, tell how many instructions
were completed, how often the machine failed and was loaded, and whether it waits or is halted.
An instruction that blocks is recorded as executed before it has taken effect, and no such
record follows when it resumes. So the completed instructions are the executed ones less the
waits that began, plus the keys that ended a wait.

What is counted in two stretches of a run adds up, so the books of a run follow from those of
a single action.
-/

namespace Chip8

/-- Everything logged in a history, in order. -/
def log (history : List Moment) : List Event :=
  history.flatMap Moment.events

/-- The number of records with a message. -/
def recorded (message : String) (events : List Event) : Nat :=
  events.countP (·.message = message)

/-- In an empty log no message is recorded. -/
@[simp] theorem recorded_nil (message : String) : recorded message [] = 0 := rfl

/-- An event in front adds one to the records of its own message. -/
@[simp] theorem recorded_cons (message : String) (event : Event) (later : List Event) :
    recorded message (event :: later) =
      recorded message later + if event.message = message then 1 else 0 := by
  simp [recorded, List.countP_cons]

/-- The log of a single moment consists of its events. -/
@[simp] theorem log_single (moment : Moment) : log [moment] = moment.events :=
  List.flatMap_singleton _ _

/-- The records of two stretches of a run add up. -/
theorem recorded_log_append (message : String) (earlier later : List Moment) :
    recorded message (log (earlier ++ later)) =
      recorded message (log earlier) + recorded message (log later) := by
  rw [recorded, log, List.flatMap_append, List.countP_append]
  rfl

namespace Event

/-- Where the instruction of a record stood, and its opcode. -/
def site? : Event → Option (UInt16 × UInt16)
  | executed pc opcode _ | halting _ pc opcode => some (pc, opcode)
  | loaded _ | waitingForKey _ | keyPressed .. | paused _ => none

/-- A record names the program counter of a machine and the opcode there, as data and in its
written fields. -/
structure Names (event : Event) (machine : Machine) : Prop where
  site : event.site? = some (machine.pc, machine.fetch)
  pc : event.fields.lookup "pc" = some (addressText machine.pc)
  opcode : event.fields.lookup "opcode" = some (opcodeText machine.fetch)

end Event

namespace Machine

/-- The log of a history accounts for what happened between two machines. -/
structure Books (before after : Machine) (history : List Moment) : Prop where
  completed :
    history.countP Moment.completes + recorded "waiting for key" (log history) =
      recorded "executed" (log history) + recorded "key pressed" (log history)
  waits :
    recorded "waiting for key" (log history) + before.waiting.isSome.toNat =
      recorded "key pressed" (log history) + after.waiting.isSome.toNat
  faults : recorded "halting" (log history) = history.countP Moment.faults
  halts :
    recorded "halting" (log history) + recorded "paused" (log history) + before.halted.toNat =
      after.halted.toNat
  loads : recorded "loaded ROM" (log history) = history.countP Moment.loads

/-- The books of two stretches, one after the other, are those of both. -/
theorem Books.append {first second third : Machine} {earlier later : List Moment}
    (before : Books first second earlier) (after : Books second third later) :
    Books first third (earlier ++ later) := by
  constructor
  · have first := before.completed
    have second := after.completed
    simp only [recorded_log_append, List.countP_append]
    omega
  · have first := before.waits
    have second := after.waits
    simp only [recorded_log_append]
    omega
  · rw [recorded_log_append, List.countP_append, before.faults, after.faults]
  · have first := before.halts
    have second := after.halts
    simp only [recorded_log_append]
    omega
  · rw [recorded_log_append, List.countP_append, before.loads, after.loads]

/-- Every course of a cycle keeps the books. -/
theorem cycle_books {machine : Machine} {keyboard : Keyboard} {now : Readings}
    {transition : Transition} (course : Course machine keyboard now transition) :
    Books machine transition.machine
      [⟨machine, .cycle keyboard now, .cycled transition.result, transition.machine,
        transition.events⟩] := by
  have ready := course.ready
  cases course with
  | halted | waiting =>
    constructor <;> simp [Moment.completes, Moment.executed, Moment.faults, Moment.loads]
  | unknown fault running | refused instruction fault running =>
    constructor <;>
      simp [Moment.completes, Moment.executed, Moment.faults, Moment.loads, Event.message, running]
  | blocked instruction running free =>
    constructor <;>
      simp [Moment.completes, Moment.executed, Moment.faults, Moment.loads, Event.message, free]
  | resumed instruction key running awaited =>
    -- Only the key is recorded, and the wait is over.
    obtain ⟨stillRunning, ended⟩ := ready instruction rfl
    dsimp only at stillRunning ended
    constructor <;>
      simp [Moment.completes, Moment.executed, Moment.faults, Moment.loads, Event.message, awaited,
        running, stillRunning, ended]
  | executed instruction after flow running free =>
    obtain ⟨stillRunning, stillFree⟩ := ready instruction rfl
    dsimp only at stillRunning stillFree
    constructor <;>
      simp [Moment.completes, Moment.executed, Moment.faults, Moment.loads, Event.message,
        running, free, stillRunning, stillFree]

/-- Every action keeps the books. -/
theorem act_books (machine : Machine) (action : Action) :
    Books machine (machine.act action).after [machine.act action] := by
  cases action with
  | cycle keyboard now => exact cycle_books (cycle_course machine keyboard now)
  | load program =>
    by_cases fits : program.length ≤ Memory.programSize <;> constructor <;>
      simp [act, load, fits, Moment.completes, Moment.executed, Moment.faults, Moment.loads,
        Event.message]
  | pause =>
    -- A machine that is halted already is not recorded as paused.
    cases halted : machine.halted <;> constructor <;>
      simp [act, pause, halted, Moment.completes, Moment.executed, Moment.faults, Moment.loads,
        Event.message]
  | present =>
    constructor <;>
      simp [act, present, Moment.completes, Moment.executed, Moment.faults, Moment.loads]

/-- Every run keeps the books. -/
theorem run_books (machine : Machine) (actions : List Action) :
    Books machine (machine.run actions) (machine.history actions) := by
  induction actions generalizing machine with
  | nil => exact ⟨rfl, rfl, rfl, Nat.zero_add _, rfl⟩
  | cons action later inductionHypothesis =>
    exact (act_books machine action).append (inductionHypothesis _)

/-- The record of an instruction names where the machine stood before it and the opcode there. -/
theorem act_names (machine : Machine) (action : Action) (event : Event)
    (logged : event ∈ (machine.act action).events)
    (instructs : event.message = "executed" ∨ event.message = "halting") :
    event.Names machine := by
  cases action with
  | cycle keyboard now =>
    obtain ⟨transition, course, acted⟩ := act_course machine keyboard now
    rw [acted] at logged
    cases course with
    | halted | waiting => cases logged
    | unknown | refused | executed =>
      obtain rfl := List.mem_singleton.mp logged
      exact ⟨rfl, rfl, rfl⟩
    | resumed =>
      obtain rfl := List.mem_singleton.mp logged
      simp [Event.message] at instructs
    | blocked =>
      rcases List.mem_cons.mp logged with rfl | waits
      · exact ⟨rfl, rfl, rfl⟩
      · obtain rfl := List.mem_singleton.mp waits
        simp [Event.message] at instructs
  | load program =>
    by_cases fits : program.length ≤ Memory.programSize
    · simp only [act, load, fits, if_true, List.mem_singleton] at logged
      subst logged
      simp [Event.message] at instructs
    · simp [act, load, fits] at logged
  | pause =>
    cases halted : machine.halted with
    | true => simp [act, pause, halted] at logged
    | false =>
      simp only [act, pause, halted, Bool.false_eq_true, if_false, List.mem_singleton] at logged
      subst logged
      simp [Event.message] at instructs
  | present => cases logged

/-- The log accounts for every step. At every moment of every run of a machine from its
construction, the completed instructions are as many as the records of executed ones, less
those of waits and plus those of keys; waits and keys differ by one while the machine waits and
agree otherwise; the machine failed as often as its halting is recorded; a halted machine has
one record of a halt or a pause and any other has none; loads are recorded as often as they
succeeded; and the record of an instruction names the program counter before it and the opcode
there.

Proof: each course of a cycle and each other action keeps these books, and those of two
stretches of a run add up. A new machine neither waits nor is halted. -/
theorem log_accounts (settings : Settings) (now : Instant) (entropy : Random.StreamKey)
    (actions : List Action) :
    let machine := (boot settings now entropy).run actions
    let history := (boot settings now entropy).history actions
    let records (message : String) : Int := recorded message (log history)
    history.countP Moment.completes =
      records "executed" - records "waiting for key" + records "key pressed" ∧
    records "waiting for key" - records "key pressed" = machine.waiting.isSome.toNat ∧
    records "halting" = history.countP Moment.faults ∧
    records "halting" + records "paused" = machine.halted.toNat ∧
    records "loaded ROM" = history.countP Moment.loads ∧
    ∀ moment ∈ history, ∀ event ∈ moment.events,
      event.message = "executed" ∨ event.message = "halting" → event.Names moment.before := by
  intro machine history records
  have books : Books (boot settings now entropy) machine history := run_books _ actions
  have completed := books.completed
  have waits := books.waits
  have halts := books.halts
  have free : (boot settings now entropy).waiting.isSome.toNat = 0 := rfl
  have running : (boot settings now entropy).halted.toNat = 0 := rfl
  simp only [records]
  refine ⟨by omega, by omega, congrArg Nat.cast books.faults, by omega,
    congrArg Nat.cast books.loads, ?_⟩
  intro moment member event logged instructs
  obtain ⟨done, action, rfl⟩ := act_of_mem_history member
  rw [act_before]
  exact act_names _ action event logged instructs

end Machine

end Chip8
