import Mathlib.Data.List.Infix
import Chip8.Proofs.Cycle

/-!
# Calls and returns

The call stack is the list of the calls that no return has answered yet. Which calls
these are is said of the history of a run alone, by counting: a call is unanswered as
long as no stretch of the history right behind it has more returns than calls.

One law says what a single action does to the stack, and an induction over the run
gives the stack after it. The induction starts from any machine, not only a new one:
applied in the middle of a run it shows that a balanced stretch of calls and returns
leaves the stack as it found it, so that a return continues behind its own call.
-/

namespace Chip8

/-- The part that a moment of a run plays for the call stack. -/
inductive Role where
  /-- A call was completed. -/
  | calls
  /-- A return was completed. -/
  | returns
  /-- Anything else, a refused call or return included. -/
  | other
  deriving DecidableEq, Repr

/-- The role of a completed command. -/
def Command.role : Command → Role
  | .call => .calls
  | .returnFromCall => .returns
  | _ => .other

/-- The role of a moment, by the instruction that was completed in it. -/
def Moment.role (moment : Moment) : Role :=
  match moment.executed with
  | some instruction => instruction.command.role
  | none => .other

/-- The number of completed calls in a history. -/
def calls (history : List Moment) : Nat :=
  history.countP (·.role = .calls)

/-- The number of completed returns in a history. -/
def returns (history : List Moment) : Nat :=
  history.countP (·.role = .returns)

/-- No return goes back beyond the calls of the history itself: every first stretch
of it has at most as many returns as calls. -/
def Contained (history : List Moment) : Prop :=
  ∀ stretch ∈ history.inits, returns stretch ≤ calls stretch

instance (history : List Moment) : Decidable (Contained history) :=
  inferInstanceAs (Decidable (∀ stretch ∈ history.inits, returns stretch ≤ calls stretch))

/-- Every return answers a call of the history and every call is answered. -/
structure Balanced (history : List Moment) : Prop where
  contained : Contained history
  level : returns history = calls history

/-- Where the calls stood that no return has answered yet, oldest first. -/
def unansweredCalls : List Moment → List UInt16
  | [] => []
  | moment :: later =>
    if moment.role = .calls ∧ Contained later then moment.before.pc :: unansweredCalls later
    else unansweredCalls later

/-- The number of returns that answer a call from before the history. -/
def outerReturns : List Moment → Nat
  | [] => 0
  | moment :: later =>
    match moment.role with
    | .calls => outerReturns later - 1
    | .returns => outerReturns later + 1
    | .other => outerReturns later

/-- One moment more in front adds a call if it is one. -/
theorem calls_cons (moment : Moment) (later : List Moment) :
    calls (moment :: later) = calls later + if moment.role = .calls then 1 else 0 := by
  simp [calls, List.countP_cons]

/-- One moment more in front adds a return if it is one. -/
theorem returns_cons (moment : Moment) (later : List Moment) :
    returns (moment :: later) = returns later + if moment.role = .returns then 1 else 0 := by
  simp [returns, List.countP_cons]

/-- The outer returns are the excess of returns over calls in the stretch where it is
largest. -/
theorem outerReturns_le_iff (history : List Moment) (excess : Nat) :
    outerReturns history ≤ excess ↔
      ∀ stretch ∈ history.inits, returns stretch ≤ calls stretch + excess := by
  induction history generalizing excess with
  | nil => simp [outerReturns, returns]
  | cons moment later inductionHypothesis =>
    have split : (∀ stretch ∈ (moment :: later).inits,
          returns stretch ≤ calls stretch + excess) ↔
        ∀ stretch ∈ later.inits,
          returns (moment :: stretch) ≤ calls (moment :: stretch) + excess := by
      simp [returns]
    rw [split]
    cases role : moment.role with
    | calls =>
      have step := inductionHypothesis (excess + 1)
      simp only [outerReturns, role, calls_cons, returns_cons, reduceCtorEq, if_true, if_false]
      constructor
      · intro few stretch first
        have bound := step.mp (by omega) stretch first
        omega
      · intro bounded
        have few := step.mpr fun stretch first => by
          have bound := bounded stretch first
          omega
        omega
    | returns =>
      simp only [outerReturns, role, calls_cons, returns_cons, reduceCtorEq, if_true, if_false]
      -- The shortest stretch is the return alone, which needs an excess of one.
      cases excess with
      | zero =>
        constructor
        · intro few
          omega
        · intro bounded
          have alone := bounded [] (by simp)
          simp [returns, calls] at alone
      | succ remaining =>
        have step := inductionHypothesis remaining
        constructor
        · intro few stretch first
          have bound := step.mp (by omega) stretch first
          omega
        · intro bounded
          have few := step.mpr fun stretch first => by
            have bound := bounded stretch first
            omega
          omega
    | other =>
      simpa only [outerReturns, role, calls_cons, returns_cons, reduceCtorEq, if_false,
        Nat.add_zero] using inductionHypothesis excess

/-- A history is contained exactly if none of its returns answers an earlier call. -/
theorem contained_iff (history : List Moment) :
    Contained history ↔ outerReturns history = 0 := by
  have bound := outerReturns_le_iff history 0
  simp only [Nat.add_zero, Nat.le_zero] at bound
  exact bound.symm

/-- Calls are either unanswered or matched with the returns that go no further. -/
theorem length_unansweredCalls (history : List Moment) :
    (unansweredCalls history).length + returns history =
      calls history + outerReturns history := by
  induction history with
  | nil => rfl
  | cons moment later inductionHypothesis =>
    cases role : moment.role with
    | calls =>
      simp only [unansweredCalls, outerReturns, role, calls_cons, returns_cons, true_and,
        contained_iff, reduceCtorEq, if_true, if_false]
      split
      · simp only [List.length_cons]
        omega
      · omega
    | returns =>
      simp only [unansweredCalls, outerReturns, role, calls_cons, returns_cons, reduceCtorEq,
        false_and, if_true, if_false]
      omega
    | other =>
      simp only [unansweredCalls, outerReturns, role, calls_cons, returns_cons, reduceCtorEq,
        false_and, if_false]
      omega

/-- A balanced stretch leaves no call unanswered. -/
theorem unansweredCalls_balanced {history : List Moment} (balanced : Balanced history) :
    unansweredCalls history = [] := by
  have counted := length_unansweredCalls history
  rw [(contained_iff history).mp balanced.contained, balanced.level] at counted
  exact List.eq_nil_of_length_eq_zero (by omega)

namespace Machine

/-- What one action does to the call stack. A call appends its own address, a return
removes the last entry and continues two bytes behind the call stored there, and
nothing else changes the stack. A key wait that is resumed counts among the rest,
since only key waits are ever resumed. -/
theorem act_stack (machine : Machine) (action : Action) (sound : machine.WaitsForKey) :
    match (machine.act action).role with
    | .calls => (machine.act action).after.stack.toList = machine.stack.toList ++ [machine.pc]
    | .returns => ∃ caller,
        machine.stack.toList = (machine.act action).after.stack.toList ++ [caller] ∧
        (machine.act action).after.pc = caller + 2
    | .other => (machine.act action).after.stack.toList = machine.stack.toList := by
  cases action with
  | cycle keyboard now =>
    simp only [Moment.role, Moment.executed, act]
    generalize outcome : machine.cycle keyboard now = transition
    have course := outcome ▸ cycle_course machine keyboard now
    cases course with
    | halted | waiting | unknown | refused | blocked => rfl
    | resumed instruction key running awaited pressed =>
      simp only [sound instruction awaited, Command.role]
      rw [(sameCore_finish _ now.counted .next).stack]
      rfl
    | executed instruction after flow running free decoded done moves =>
      have core := (sameCore_finish after now.counted flow).stack
      have stack := execute_stack done
      cases command : instruction.command <;> simp only [command, Command.role] at stack ⊢
      case call =>
        rw [core]
        exact CallStack.toList_push stack.1
      case returnFromCall =>
        obtain ⟨popped, rfl⟩ := stack
        rw [core, pc_finish]
        exact ⟨after.pc, CallStack.toList_pop popped, rfl⟩
      all_goals rw [core, stack]
  | load program =>
    have silent : (machine.act (.load program)).role = .other := by
      by_cases fits : program.length ≤ Memory.programSize <;>
        simp [Moment.role, Moment.executed, act, load, fits]
    simp only [silent, after_load]
  | pause => rfl
  | present => rfl

/-- The stack after a run from any machine: of the entries it began with, those that
outer returns have taken are gone from the end, and the unanswered calls of the run
stand behind the rest. There are never more outer returns than entries to take.

The induction is on the first action. A call puts its address behind the old entries,
where either an outer return of the later run takes it, or it stays as the oldest
unanswered call. A return takes the last of the old entries. -/
theorem run_stack (machine : Machine) (actions : List Action) (sound : machine.WaitsForKey) :
    outerReturns (machine.history actions) ≤ machine.stack.toList.length ∧
      (machine.run actions).stack.toList =
        machine.stack.toList.take
            (machine.stack.toList.length - outerReturns (machine.history actions)) ++
          unansweredCalls (machine.history actions) := by
  induction actions generalizing machine with
  | nil => simp [history, run, outerReturns, unansweredCalls]
  | cons action rest inductionHypothesis =>
    have step := act_stack machine action sound
    obtain ⟨bound, reached⟩ :=
      inductionHypothesis _ (act_waitsForKey machine action sound)
    simp only [history, run, outerReturns, unansweredCalls, act_before, contained_iff]
    cases role : (machine.act action).role with
    | calls =>
      simp only [role] at step
      rw [step, List.length_append, List.length_singleton] at bound reached
      refine ⟨by dsimp only; omega, ?_⟩
      rw [reached]
      by_cases contained : outerReturns ((machine.act action).after.history rest) = 0
      · simp [contained, List.take_of_length_le]
      · have taken : machine.stack.toList.length + 1 -
              outerReturns ((machine.act action).after.history rest) ≤
            machine.stack.toList.length := by omega
        rw [List.take_append_of_le_length taken]
        simp only [contained, and_false, if_false]
        congr 2
        omega
    | returns =>
      simp only [role] at step
      obtain ⟨caller, entries, -⟩ := step
      rw [entries, List.length_append, List.length_singleton]
      refine ⟨by dsimp only; omega, ?_⟩
      rw [reached, List.take_append_of_le_length (by dsimp only; omega)]
      simp only [reduceCtorEq, false_and, if_false]
      congr 2
      omega
    | other =>
      simp only [role] at step
      rw [step] at bound reached
      exact ⟨bound, by simpa using reached⟩

/-- A balanced stretch of a run leaves the stack as it found it. -/
theorem run_balanced (machine : Machine) (actions : List Action) (sound : machine.WaitsForKey)
    (balanced : Balanced (machine.history actions)) :
    (machine.run actions).stack.toList = machine.stack.toList := by
  obtain ⟨-, reached⟩ := run_stack machine actions sound
  rw [(contained_iff _).mp balanced.contained, unansweredCalls_balanced balanced] at reached
  simpa using reached

/-- The call stack is exactly the list of the unanswered calls, in every state that a
run can reach. Its depth is the number of completed calls less that of completed
returns, at most sixteen, and the slots in use hold the addresses of the unanswered
calls, oldest first. A return that is separated from a call by a balanced stretch
continues two bytes behind that call, and the stack is again what it was before the
call. -/
theorem stack_exact (settings : Settings) (now : Instant) (entropy : Random.StreamKey)
    (actions : List Action) :
    let history := (boot settings now entropy).history actions
    let stack := ((boot settings now entropy).run actions).stack
    stack.depth + returns history = calls history ∧
    stack.depth ≤ 16 ∧
    stack.slots.toList.take stack.depth = unansweredCalls history ∧
    ∀ earlier calling between returning later,
      history = earlier ++ calling :: (between ++ returning :: later) →
      calling.role = .calls → Balanced between → returning.role = .returns →
      returning.after.pc = calling.before.pc + 2 ∧
        returning.after.stack.toList = calling.before.stack.toList := by
  intro history stack
  have waits := run_waitsForKey settings now entropy
  obtain ⟨bound, reached⟩ := run_stack (boot settings now entropy) actions (waits [])
  have vacant : (boot settings now entropy).stack.toList = [] := rfl
  simp only [vacant, List.length_nil, Nat.le_zero, List.take_nil, List.nil_append] at bound reached
  have counted := length_unansweredCalls history
  rw [← reached, bound, CallStack.length_toList] at counted
  refine ⟨counted, stack.depth_le, reached, ?_⟩
  intro earlier calling between returning later cut called balanced returned
  obtain ⟨first, following, -, -, tail⟩ := history_split _ _ _ _ cut
  cases following with
  | nil => simp [Machine.history] at tail
  | cons action rest =>
    obtain ⟨rfl, middle⟩ := List.cons.inj tail
    obtain ⟨inner, ending, -, rfl, last⟩ := history_split _ _ _ _ middle.symm
    cases ending with
    | nil => simp [Machine.history] at last
    | cons final remaining =>
      obtain ⟨rfl, -⟩ := List.cons.inj last
      have step := act_stack _ action (waits first)
      simp only [called] at step
      have calledWaits := act_waitsForKey _ action (waits first)
      have kept := run_balanced _ inner calledWaits balanced
      have back := act_stack _ final (run_invariant act_waitsForKey _ inner calledWaits)
      simp only [returned] at back
      obtain ⟨caller, entries, continued⟩ := back
      rw [kept, step] at entries
      obtain ⟨same, top⟩ := List.append_inj' entries rfl
      obtain rfl : _ = caller := List.head_eq_of_cons_eq top
      rw [act_before]
      exact ⟨continued, same.symm⟩

/-- A subroutine at `0x204` that calls another at `0x208`; both return at once. -/
def nestedCalls : List UInt8 :=
  [0x22, 0x04, 0x00, 0x00, 0x22, 0x08, 0x00, 0xEE, 0x00, 0xEE]

/-- The machine that has loaded the nested calls and executed some instructions of them. -/
def afterNested (count : Nat) : Machine :=
  (boot {} 0 (Vector.replicate 8 0)).run
    (.load nestedCalls :: List.replicate count (.cycle .idle (.still 0)))

/-- The outer return of the nested calls, behind a balanced stretch of an inner call and
its return, continues behind the outer call and leaves the stack as empty as before it. -/
theorem stack_exact_nested :
    ((afterNested 0).act (.cycle .idle (.still 0))).role = .calls ∧
    Balanced ((afterNested 1).history (List.replicate 2 (.cycle .idle (.still 0)))) ∧
    ((afterNested 3).act (.cycle .idle (.still 0))).role = .returns ∧
    (afterNested 4).pc = (afterNested 0).pc + 2 ∧
    (afterNested 4).stack.toList = (afterNested 0).stack.toList := by
  have called : ((afterNested 0).act (.cycle .idle (.still 0))).role = .calls := by decide +kernel
  have balanced : Balanced ((afterNested 1).history (List.replicate 2 (.cycle .idle (.still 0)))) :=
    ⟨by decide +kernel, by decide +kernel⟩
  have returned : ((afterNested 3).act (.cycle .idle (.still 0))).role = .returns := by
    decide +kernel
  obtain ⟨-, -, -, matched⟩ := stack_exact {} 0 (Vector.replicate 8 0)
    (.load nestedCalls :: List.replicate 4 (.cycle .idle (.still 0)))
  have behind := matched [(boot {} 0 (Vector.replicate 8 0)).act (.load nestedCalls)]
    ((afterNested 0).act (.cycle .idle (.still 0))) _
    ((afterNested 3).act (.cycle .idle (.still 0))) [] rfl called balanced returned
  rw [act_before] at behind
  have next : afterNested 4 = ((afterNested 3).act (.cycle .idle (.still 0))).after := rfl
  rw [next]
  exact ⟨called, balanced, returned, behind⟩

end Machine

end Chip8
