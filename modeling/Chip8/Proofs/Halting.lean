import Chip8.Proofs.KeyWait

/-!
# Halted machines

A fault and a pause halt a machine, and nothing ever releases it again. Every later cycle
reports that the machine is halted and leaves it as it is, a pending key wait included. The
host can still load programs, which changes memory, and show the screen, which forgets the
touched cells. So a machine faults at most once in its life.
-/

namespace Chip8

/-- Whether the moment is a cycle that ends in a fault. -/
def Moment.faults (moment : Moment) : Bool :=
  match moment.answer with
  | .cycled (.error _) => true
  | _ => false

/-- Whether the action is a pause. -/
def Action.isPause : Action → Bool
  | .pause => true
  | _ => false

namespace Memory

/-- Memory after an action, if only a load can reach it. A program that does not fit changes
nothing. -/
def loaded (memory : Memory) : Action → Memory
  | .load program =>
    if program.length ≤ programSize then memory.writeMany programStart program else memory
  | .cycle .. | .pause | .present => memory

/-- Memory as the loads among some actions leave it. -/
def loadedBy (memory : Memory) (actions : List Action) : Memory :=
  actions.foldl loaded memory

end Memory

namespace Machine

/-- Faults and pauses halt the machine. -/
theorem act_halts {machine : Machine} {action : Action}
    (cause : (machine.act action).faults = true ∨ action.isPause = true) :
    (machine.act action).after.halted = true := by
  cases action with
  | cycle keyboard now =>
    obtain failed | ⟨⟨⟩⟩ := cause
    obtain ⟨transition, course, acted⟩ := act_course machine keyboard now
    rw [acted] at failed ⊢
    cases course with
    | unknown | refused => rfl
    | halted | waiting | resumed | blocked | executed => cases failed
  | load program => simp [Moment.faults, Action.isPause] at cause
  | pause => rfl
  | present => simp [Moment.faults, act, Action.isPause] at cause

/-- Of all that a host can do to a halted machine only loads and presents change it. -/
theorem act_halted {machine : Machine} (stopped : machine.halted = true) (action : Action) :
    (machine.act action).after =
      { machine with memory := machine.memory.loaded action }.presentedBy [action] := by
  cases action with
  | cycle keyboard now => rw [after_cycle, cycle_halted now stopped]; rfl
  | load program => exact after_load machine program
  | pause => rw [after_pause, ← stopped]; rfl
  | present => rfl

/-- A halted machine answers every cycle by saying so. -/
theorem act_answers_halted {machine : Machine} {action : Action} (stopped : machine.halted = true)
    (cycle : action.isCycle = true) : (machine.act action).answer = .cycled (.ok .halted) := by
  cases action with
  | cycle keyboard now => simp only [act, cycle_halted now stopped]
  | load | pause | present => cases cycle

/-- No action starts a halted machine again. -/
theorem act_stays_halted {machine : Machine} (stopped : machine.halted = true) (action : Action) :
    (machine.act action).after.halted = true := by
  rw [act_halted stopped, presentedBy_halted, stopped]

/-- Loads and presents do not interfere. -/
theorem presentedBy_cons (machine : Machine) (memory : Memory) (action : Action)
    (later : List Action) :
    { machine.presentedBy [action] with memory := memory }.presentedBy later =
      { machine with memory := memory }.presentedBy (action :: later) := by
  cases action with
  | present => exact (presentedBy_present { machine with memory := memory } later).symm
  | cycle | load | pause => rfl

/-- To a halted machine nothing happens but that programs are loaded and the screen is
shown. -/
theorem run_halted {machine : Machine} (stopped : machine.halted = true) (actions : List Action) :
    machine.run actions =
      { machine with memory := machine.memory.loadedBy actions }.presentedBy actions := by
  induction actions generalizing machine with
  | nil => rfl
  | cons action later inductionHypothesis =>
    have kept (memory : Memory) :
        ({ machine with memory := memory }.presentedBy [action]).memory = memory := by
      cases action <;> rfl
    rw [run, inductionHypothesis (act_stays_halted stopped action), act_halted stopped, kept,
      presentedBy_cons]
    rfl

/-- A halted machine does not fault again. -/
theorem act_faults_halted {machine : Machine} (stopped : machine.halted = true)
    (action : Action) : (machine.act action).faults = false := by
  cases action with
  | cycle keyboard now => rw [Moment.faults, act_answers_halted stopped rfl]
  | load program => rw [Moment.faults, answer_load]
  | pause => rfl
  | present => rfl

/-- Every moment of a run of a halted machine finds it halted. -/
theorem history_halted {machine : Machine} (stopped : machine.halted = true)
    (actions : List Action) :
    ∀ moment ∈ machine.history actions,
      ∃ (before : Machine) (action : Action),
        before.halted = true ∧ moment = before.act action := by
  intro moment member
  obtain ⟨done, action, taken⟩ := act_of_mem_history member
  refine ⟨machine.run done, action, ?_, taken⟩
  rw [run_halted stopped, presentedBy_halted, stopped]

/-- A machine faults at most once, since it is halted from then on. -/
theorem countP_faults_le_one (machine : Machine) (actions : List Action) :
    (machine.history actions).countP Moment.faults ≤ 1 := by
  induction actions generalizing machine with
  | nil => exact Nat.zero_le 1
  | cons action later inductionHypothesis =>
    rw [history, List.countP_cons]
    cases failed : (machine.act action).faults with
    | false => exact inductionHypothesis _
    | true =>
      have never : ((machine.act action).after.history later).countP Moment.faults = 0 := by
        rw [List.countP_eq_zero]
        intro moment member
        obtain ⟨before, next, stopped, rfl⟩ :=
          history_halted (act_halts (.inl failed)) later moment member
        rw [act_faults_halted stopped next]
        exact Bool.false_ne_true
      rw [never]
      exact Nat.le_refl 1

/-- Halting is for ever. From a halted machine on, and faults and pauses halt it, every cycle
of every run reports that it is halted, and the run changes nothing in the machine but its
memory, by the programs loaded, and the touched cells of its screen, by showing it. Hence no
machine faults twice.

Proof: one action keeps a halted machine halted and changes no more than that, so does a run
by induction on its actions, and after the first fault of a run all moments find the machine
halted. -/
theorem halting_latches (machine : Machine) (actions : List Action) :
    (∀ moment ∈ machine.history actions,
      moment.faults = true ∨ moment.action.isPause = true → moment.after.halted = true) ∧
    (machine.halted = true →
      (∀ moment ∈ machine.history actions, moment.action.isCycle = true →
        moment.answer = .cycled (.ok .halted)) ∧
      machine.run actions =
        { machine with memory := machine.memory.loadedBy actions }.presentedBy actions ∧
      (machine.run actions).screen.pixels = machine.screen.pixels) ∧
    (machine.history actions).countP Moment.faults ≤ 1 := by
  refine ⟨?_, ?_, countP_faults_le_one machine actions⟩
  · intro moment member cause
    obtain ⟨earlier, later, cut⟩ := List.append_of_mem member
    obtain ⟨done, action, -, rfl⟩ := act_of_history machine actions earlier later moment cut
    rw [act_action] at cause
    exact act_halts cause
  · intro stopped
    have reached := run_halted stopped actions
    refine ⟨?_, reached, ?_⟩
    · intro moment member cycle
      obtain ⟨before, action, still, rfl⟩ := history_halted stopped actions moment member
      rw [act_action] at cycle
      exact act_answers_halted still cycle
    · rw [reached, presentedBy]
      split <;> rfl

/-- A machine that waits for a key to put into V0, and is paused. -/
def pausedWait : Machine :=
  (boot {} 0 (Vector.replicate 8 0)).run [.load [0xF0, 0x0A], .cycle .idle (.still 0), .pause]

/-- A key that comes too late, a present, a load and a cycle without keys. -/
def tooLate (pressed : Keyboard) : List Action :=
  [.cycle pressed (.still 0), .present, .load [0x12, 0x00], .cycle .idle (.still 0)]

/-- The key does not end the wait: V0 stays zero, and the machine waits, halted. -/
theorem paused_wait_unanswered :
    let actions := tooLate (.ofList [5])
    pausedWait.halted = true ∧
      (∀ moment ∈ pausedWait.history actions, moment.action.isCycle = true →
        moment.answer = .cycled (.ok .halted)) ∧
      (pausedWait.run actions).waiting.isSome = true ∧
      (pausedWait.run actions).reg v0 = 0 := by
  intro actions
  have stopped : pausedWait.halted = true := by decide +kernel
  obtain ⟨-, forever, -⟩ := halting_latches pausedWait actions
  obtain ⟨answers, reached, -⟩ := forever stopped
  refine ⟨stopped, answers, ?_, ?_⟩
  · rw [reached, presentedBy_waiting]
    decide +kernel
  · rw [reached]
    decide +kernel

end Machine

end Chip8
