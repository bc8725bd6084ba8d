import Chip8.Machine.Cycle

/-!
# Runs

A host drives a machine by cycles, by loading programs, by pausing it and by
presenting its screen, in any order and any number of times. The history of such a
run keeps, for each action, the machine before and after it, what the host received
and what was logged. Keys and clock readings belong to the single cycle; nothing is
assumed about the order of the readings, within a cycle or between cycles.

Every moment of a run is the end of a shorter run, so a law about the ends of all
runs from a machine's construction is a law about every state it can reach.
-/

namespace Chip8

/-- Something a host does to a machine. -/
inductive Action where
  /-- Execute a cycle under the keys held and the readings of the clock. -/
  | cycle (keyboard : Keyboard) (now : Readings)
  /-- Load a program. -/
  | load (program : List UInt8)
  /-- Halt the machine. -/
  | pause
  /-- Show the screen. -/
  | present

/-- What a host receives for an action. -/
inductive Answer where
  /-- The result of a cycle. -/
  | cycled (result : Except Fault Step)
  /-- Why a program was refused, if it was. -/
  | loaded (refusal : Option Error)
  /-- A pause has no answer of its own. -/
  | paused
  /-- The screen with its touched cells. -/
  | presented (screen : Screen)

/-- One action of a run. -/
structure Moment where
  before : Machine
  action : Action
  answer : Answer
  after : Machine
  events : List Event

/-- The instruction that was completed, if one was. -/
def Moment.executed (moment : Moment) : Option Instruction :=
  match moment.answer with
  | .cycled (.ok (.executed instruction)) => some instruction
  | _ => none

namespace Machine

/-- Take one action. -/
def act (machine : Machine) (action : Action) : Moment :=
  match action with
  | .cycle keyboard now =>
    let transition := machine.cycle keyboard now
    ⟨machine, action, .cycled transition.result, transition.machine, transition.events⟩
  | .load program =>
    match machine.load program with
    | (after, .ok event) => ⟨machine, action, .loaded none, after, [event]⟩
    | (after, .error cause) => ⟨machine, action, .loaded (some cause), after, []⟩
  | .pause => ⟨machine, action, .paused, machine.pause.1, machine.pause.2⟩
  | .present => ⟨machine, action, .presented machine.present.1, machine.present.2, []⟩

/-- The machine after a list of actions. -/
def run (machine : Machine) : List Action → Machine
  | [] => machine
  | action :: later => (machine.act action).after.run later

/-- The moments of a run, in order. -/
def history (machine : Machine) : List Action → List Moment
  | [] => []
  | action :: later => machine.act action :: (machine.act action).after.history later

/-- A moment remembers the machine that the action was taken on. -/
@[simp] theorem act_before (machine : Machine) (action : Action) :
    (machine.act action).before = machine := by
  cases action with
  | load program =>
    by_cases fits : program.length ≤ Memory.programSize <;> simp [act, load, fits]
  | _ => rfl

/-- A moment remembers its action. -/
@[simp] theorem act_action (machine : Machine) (action : Action) :
    (machine.act action).action = action := by
  cases action with
  | load program =>
    by_cases fits : program.length ≤ Memory.programSize <;> simp [act, load, fits]
  | _ => rfl

/-- A cycle leads to the machine of its outcome. -/
@[simp] theorem after_cycle (machine : Machine) (keyboard : Keyboard) (now : Readings) :
    (machine.act (.cycle keyboard now)).after = (machine.cycle keyboard now).machine := rfl

/-- A pause halts the machine and changes nothing else. -/
@[simp] theorem after_pause (machine : Machine) :
    (machine.act .pause).after = { machine with halted := true } := rfl

/-- Presenting leads to the machine whose screen is clean. -/
@[simp] theorem after_present (machine : Machine) :
    (machine.act .present).after = machine.present.2 := rfl

/-- Loading changes memory alone, and only for a program that fits. -/
@[simp] theorem after_load (machine : Machine) (program : List UInt8) :
    (machine.act (.load program)).after =
      { machine with
        memory :=
          if program.length ≤ Memory.programSize then
            machine.memory.writeMany Memory.programStart program
          else machine.memory } := by
  by_cases fits : program.length ≤ Memory.programSize <;> simp [act, load, fits]

/-- A load is answered with an error exactly if the program is too large. -/
@[simp] theorem answer_load (machine : Machine) (program : List UInt8) :
    (machine.act (.load program)).answer =
      .loaded (if program.length ≤ Memory.programSize then none
        else some (.programTooLarge program.length Memory.programSize)) := by
  by_cases fits : program.length ≤ Memory.programSize <;> simp [act, load, fits]

/-- Two runs, one after the other, are one run. -/
theorem run_append (machine : Machine) (earlier later : List Action) :
    machine.run (earlier ++ later) = (machine.run earlier).run later := by
  induction earlier generalizing machine with
  | nil => rfl
  | cons action rest inductionHypothesis =>
    simp only [List.cons_append, run, inductionHypothesis]

/-- The history of a run in two parts is the history of the first part, then that of
the second from where the first ended. -/
theorem history_append (machine : Machine) (earlier later : List Action) :
    machine.history (earlier ++ later) =
      machine.history earlier ++ (machine.run earlier).history later := by
  induction earlier generalizing machine with
  | nil => rfl
  | cons action rest inductionHypothesis =>
    simp only [List.cons_append, history, run, inductionHypothesis]

/-- Wherever a history is cut, both pieces are histories, and the second begins with
the machine that the first left. -/
theorem history_split (machine : Machine) (actions : List Action) (first second : List Moment)
    (cut : machine.history actions = first ++ second) :
    ∃ earlier later, actions = earlier ++ later ∧ first = machine.history earlier ∧
      second = (machine.run earlier).history later := by
  induction first generalizing machine actions with
  | nil => exact ⟨[], actions, rfl, rfl, cut.symm⟩
  | cons moment rest inductionHypothesis =>
    cases actions with
    | nil => simp [history] at cut
    | cons action remaining =>
      obtain ⟨same, tail⟩ := List.cons.inj cut
      obtain ⟨earlier, later, rfl, rfl, rfl⟩ := inductionHypothesis _ _ tail
      exact ⟨action :: earlier, later, rfl, by rw [history, same], rfl⟩

/-- Each moment of a history is an action, taken where the moments before it have led. -/
theorem act_of_history (machine : Machine) (actions : List Action) (earlier later : List Moment)
    (moment : Moment) (cut : machine.history actions = earlier ++ moment :: later) :
    ∃ done action, earlier = machine.history done ∧ moment = (machine.run done).act action := by
  obtain ⟨done, following, -, first, tail⟩ := history_split machine actions _ _ cut
  cases following with
  | nil => cases tail
  | cons action rest => exact ⟨done, action, first, (List.cons.inj tail).1⟩

/-- Whatever happened in a run was an action, taken where some actions had led. -/
theorem act_of_mem_history {machine : Machine} {actions : List Action} {moment : Moment}
    (member : moment ∈ machine.history actions) :
    ∃ done action, moment = (machine.run done).act action := by
  obtain ⟨earlier, later, cut⟩ := List.append_of_mem member
  obtain ⟨done, action, -, taken⟩ := act_of_history machine actions earlier later moment cut
  exact ⟨done, action, taken⟩

/-- What holds at the start and survives every action holds after every run. -/
theorem run_invariant {holds : Machine → Prop}
    (kept : ∀ machine action, holds machine → holds (machine.act action).after)
    (machine : Machine) (actions : List Action) (start : holds machine) :
    holds (machine.run actions) := by
  induction actions generalizing machine with
  | nil => exact start
  | cons action rest inductionHypothesis =>
    exact inductionHypothesis _ (kept machine action start)

end Machine

end Chip8
