import Mathlib.Algebra.GroupWithZero.Nat
import Mathlib.Data.List.Induction
import Chip8.Proofs.TimerClock
import Chip8.Proofs.KeyWait
import Chip8.Proofs.Waiting

/-!
# Timers over a run

Of all that can happen to a machine only a completed instruction moves its timers: first
`FX15` and `FX18` set one of them, then both count down by the periods due. What a timer
shows is therefore the value it was last set to less the periods of all moments from there
on, stopping at zero. How many periods a completed instruction takes depends on the pace:
one without a clock, and with a clock those that the clock reports. After a wait for a key
the clock is restarted first, so then it reports those of the cycle itself, which are none
if the clock stands still within it.
-/

namespace Chip8

/-- The two timers of a machine. -/
inductive Timer where
  | delay
  | sound
  deriving DecidableEq, Repr

namespace Timer

/-- The bits that set the timer whatever X is: `FX15` and `FX18`. -/
def pattern : Timer → UInt16
  | delay => 0xF015
  | sound => 0xF018

/-- The command that sets the timer. -/
def command : Timer → Command
  | delay => .setDelay
  | sound => .setSound

/-- The one row of the table with the bits of the timer. -/
theorem listed (timer : Timer) :
    (⟨timer.command, 0xF0FF, timer.pattern, [.x]⟩ : Row) ∈ instructionTable := by
  cases timer <;> decide

end Timer

namespace Moment

/-- Whether the moment is a cycle that completed an instruction. -/
def completes (moment : Moment) : Bool :=
  moment.executed.isSome

/-- The value that a timer was set to, if it was: that of VX before a completed `FX15` or
`FX18`. -/
def written? (moment : Moment) (timer : Timer) : Option UInt8 :=
  match moment.executed with
  | some instruction =>
    if instruction.opcode &&& 0xF0FF = timer.pattern then
      some (moment.before.reg (registerX instruction.opcode))
    else none
  | none => none

end Moment

/-- What a cycle reads from the clock; no other action reads it. -/
def Action.readings? : Action → Option Readings
  | .cycle _ now => some now
  | _ => none

/-- What was read from the clock in a moment, if it is a cycle. -/
def Moment.readings? (moment : Moment) : Option Readings :=
  moment.action.readings?

/-- The time of a moment, if it is a cycle: that at which the timers are counted down. -/
def Moment.instant? (moment : Moment) : Option Instant :=
  moment.readings?.map Readings.counted

/-- The last time that a timer was set in a history: the moments before, those from that
time on, and the value. A timer that was never set was zero from the beginning. -/
inductive Timer.LastSet (timer : Timer) (history : List Moment) :
    List Moment → List Moment → UInt8 → Prop where
  | never (unset : ∀ moment ∈ history, moment.written? timer = none) :
      LastSet timer history [] history 0
  | once (earlier later : List Moment) (moment : Moment) (value : UInt8)
      (cut : history = earlier ++ moment :: later)
      (wrote : moment.written? timer = some value)
      (kept : ∀ other ∈ later, other.written? timer = none) :
      LastSet timer history earlier (moment :: later) value

/-- The two parts make up the history. -/
theorem Timer.LastSet.cut {timer : Timer} {history earlier since : List Moment} {value : UInt8}
    (last : timer.LastSet history earlier since value) : history = earlier ++ since := by
  cases last with
  | never unset => rfl
  | once earlier later moment value cut wrote kept => exact cut

/-- Every history has a last time that a timer was set, or the timer was never set in it. -/
theorem Timer.exists_lastSet (timer : Timer) (history : List Moment) :
    ∃ earlier since value, timer.LastSet history earlier since value := by
  induction history using List.reverseRecOn with
  | nil => exact ⟨[], [], 0, .never fun moment member => absurd member List.not_mem_nil⟩
  | append_singleton before moment inductionHypothesis =>
    cases wrote : moment.written? timer with
    | some value =>
      exact ⟨before, [moment], value, .once before [] moment value rfl wrote
        fun other member => absurd member List.not_mem_nil⟩
    | none =>
      obtain ⟨earlier, since, value, last⟩ := inductionHypothesis
      cases last with
      | never unset =>
        refine ⟨[], before ++ [moment], 0, .never ?_⟩
        exact List.forall_mem_append.mpr ⟨unset, List.forall_mem_singleton.mpr wrote⟩
      | once earlier later setting value cut set kept =>
        refine ⟨earlier, setting :: (later ++ [moment]), value,
          .once earlier (later ++ [moment]) setting value ?_ set ?_⟩
        · rw [cut, List.append_assoc, List.cons_append]
        · exact List.forall_mem_append.mpr ⟨kept, List.forall_mem_singleton.mpr wrote⟩

namespace Machine

variable {machine after : Machine} {instruction : Instruction} {keyboard : Keyboard}
  {flow : Flow}

/-- What a timer shows. -/
def timer (machine : Machine) : Timer → UInt8
  | .delay => machine.delayTimer
  | .sound => machine.soundTimer

/-- The clock as a cycle asks it if it completes an instruction: restarted after a wait. -/
def clockAsked (machine : Machine) (now : Readings) : Option TimerClock :=
  machine.clock.map fun clock =>
    if machine.waiting.isSome then clock.resync now.resumed else clock

/-- The periods by which a cycle counts the timers down if it completes an instruction. -/
def periodsDue (machine : Machine) (now : Readings) : Nat :=
  match machine.clockAsked now with
  | none => 1
  | some clock => (clock.elapsed now.counted).1

/-- An instruction sets the timer it names to VX and leaves the other one alone. -/
theorem execute_timer (done : machine.execute instruction keyboard = (after, .ok flow))
    (timer : Timer) :
    after.timer timer =
      if instruction.command = timer.command then machine.reg instruction.x
      else machine.timer timer := by
  unfold execute at done
  cases command : instruction.command <;> simp only [command] at done <;>
    (try split at done) <;> cases done <;> cases timer <;> rfl

/-- Counting down takes at most 255 periods off a timer, which has no more to lose. -/
theorem toNat_timer_elapse (machine : Machine) (periods : Nat) (timer : Timer) :
    ((machine.elapse (min periods 255)).timer timer).toNat =
      (machine.timer timer).toNat - periods := by
  have narrow (value : UInt8) :
      (UInt8.ofNat (value.toNat - min periods 255)).toNat = value.toNat - periods := by
    have small : value.toNat < 256 := value.toNat_lt
    rw [UInt8.toNat_ofNat_of_lt' (Nat.lt_of_le_of_lt (Nat.sub_le _ _) small)]
    omega
  cases timer with
  | delay => exact narrow machine.delayTimer
  | sound => exact narrow machine.soundTimer

/-- Moving the program counter leaves the timers alone. -/
theorem timer_advance (machine : Machine) (flow : Flow) (timer : Timer) :
    (machine.advance flow).timer timer = machine.timer timer := by
  cases flow <;> cases timer <;> rfl

/-- Without a wait before it, the end of an instruction counts by the periods due. -/
theorem toNat_timer_countDown {machine : Machine} (free : machine.waiting = none)
    (now : Readings) (timer : Timer) :
    ((machine.countDown now.counted).timer timer).toNat =
      (machine.timer timer).toNat - machine.periodsDue now := by
  cases timed : machine.clock with
  | none =>
    simpa [countDown, periodsDue, clockAsked, timed] using toNat_timer_elapse machine 1 timer
  | some clock =>
    have shown : (machine.countDown now.counted).timer timer =
        (machine.elapse (min (clock.elapsed now.counted).1 255)).timer timer := by
      cases timer <;> simp only [countDown, timed] <;> rfl
    rw [shown, toNat_timer_elapse]
    simp [periodsDue, clockAsked, timed, free]

/-- The end of a wait restarts the clock, and the machine asks that clock. -/
theorem clockAsked_received {machine : Machine} {instruction : Instruction}
    (awaited : machine.waiting = some instruction) (key : Key) (now : Readings) :
    (machine.received instruction key now.resumed).clockAsked now = machine.clockAsked now := by
  cases timed : machine.clock <;>
    simp [clockAsked, received, resyncClock, setReg, timed, awaited]

/-- The end of a wait counts by the periods due before it was over. -/
theorem toNat_timer_received {machine : Machine} {instruction : Instruction}
    (awaited : machine.waiting = some instruction) (key : Key) (now : Readings)
    (timer : Timer) :
    (((machine.received instruction key now.resumed).countDown now.counted).timer timer).toNat =
      (machine.timer timer).toNat - machine.periodsDue now := by
  have free : (machine.received instruction key now.resumed).waiting = none := rfl
  have same : (machine.received instruction key now.resumed).timer timer =
      machine.timer timer := by
    cases timer <;> rfl
  rw [toNat_timer_countDown free, same, periodsDue, clockAsked_received awaited, periodsDue]

end Machine

namespace Moment

/-- The periods by which the timers were counted down. -/
def periods (moment : Moment) : Nat :=
  match moment.readings? with
  | some now => if moment.completes then moment.before.periodsDue now else 0
  | none => 0

/-- What a moment does to a timer: it is set if a completed instruction sets it, and then
counted down. -/
def CountsDown (moment : Moment) (timer : Timer) : Prop :=
  (moment.after.timer timer).toNat =
    ((moment.written? timer).getD (moment.before.timer timer)).toNat - moment.periods

/-- A moment that completes no instruction and leaves the timer alone. -/
theorem countsDown_idle {moment : Moment} {timer : Timer} (idle : moment.executed = none)
    (same : moment.after.timer timer = moment.before.timer timer) : moment.CountsDown timer := by
  have unset : moment.written? timer = none := by simp [written?, idle]
  have still : moment.periods = 0 := by
    unfold periods
    split <;> simp [completes, idle]
  rw [CountsDown, unset, still, same, Option.getD_none, Nat.sub_zero]

end Moment

namespace Machine

/-- Every action counts the timers down as its moment says. -/
theorem act_countsDown (machine : Machine) (action : Action) (sound : machine.WaitsDecoded)
    (timer : Timer) : (machine.act action).CountsDown timer := by
  cases action with
  | cycle keyboard now =>
    obtain ⟨transition, course, acted⟩ := act_course machine keyboard now
    rw [acted]
    cases course with
    | halted | waiting | unknown | refused | blocked =>
      apply Moment.countsDown_idle rfl
      cases timer <;> rfl
    | resumed instruction key running awaited pressed =>
      obtain ⟨decoded, awaits⟩ := sound instruction awaited
      have other : ¬ instruction.opcode &&& 0xF0FF = timer.pattern := by
        rw [← Instruction.command_iff timer.listed decoded, awaits]
        cases timer <;> decide
      simp only [Moment.CountsDown, Moment.written?, Moment.executed, other, if_false,
        Option.getD_none, timer_advance, toNat_timer_received awaited, Moment.periods,
        Moment.readings?, Action.readings?, Moment.completes, Option.isSome_some, if_true]
    | executed instruction after flow running free decoded done moves =>
      have opcode := Instruction.opcode_of_decode decoded
      have names := Instruction.command_iff timer.listed decoded
      have kept := execute_kept done
      have due : after.periodsDue now = machine.periodsDue now := by
        simp only [periodsDue, clockAsked, kept.clock, kept.waiting]
      simp only [Moment.CountsDown, Moment.written?, Moment.executed, timer_advance,
        toNat_timer_countDown (kept.waiting.trans free), due, Moment.periods, Moment.readings?,
        Action.readings?, Moment.completes, Option.isSome_some, if_true, execute_timer done,
        names, opcode]
      by_cases bits : machine.fetch &&& 0xF0FF = timer.pattern
      · have register := Instruction.x_of_decode timer.listed rfl decoded (names.mpr bits)
        simp only [bits, if_true, register, Option.getD_some]
      · simp only [bits, if_false, Option.getD_none]
  | load program =>
    apply Moment.countsDown_idle
    · rw [Moment.executed, answer_load]
    · rw [after_load, act_before]
      cases timer <;> rfl
  | pause =>
    apply Moment.countsDown_idle rfl
    cases timer <;> rfl
  | present =>
    apply Moment.countsDown_idle rfl
    cases timer <;> rfl

/-- The clock once a cycle has completed an instruction. -/
def clockAfter (machine : Machine) (now : Readings) : Option TimerClock :=
  (machine.clockAsked now).map fun clock => (clock.elapsed now.counted).2

/-- Moving the program counter leaves the clock alone. -/
theorem clock_advance (machine : Machine) (flow : Flow) :
    (machine.advance flow).clock = machine.clock := by
  cases flow <;> rfl

/-- Counting the timers down asks the clock. -/
theorem clock_countDown (machine : Machine) (now : Instant) :
    (machine.countDown now).clock = machine.clock.map fun clock => (clock.elapsed now).2 := by
  cases timed : machine.clock <;> simp [countDown, timed, elapse]

/-- Only a completed instruction moves the clock. -/
theorem act_clock (machine : Machine) (action : Action) :
    (machine.act action).after.clock =
      match (machine.act action).readings? with
      | some now => if (machine.act action).completes then machine.clockAfter now else machine.clock
      | none => machine.clock := by
  cases action with
  | cycle keyboard now =>
    obtain ⟨transition, course, acted⟩ := act_course machine keyboard now
    rw [acted]
    cases course with
    | halted | waiting | unknown | refused | blocked => rfl
    | resumed instruction key running awaited pressed =>
      simp only [Moment.readings?, Action.readings?, Moment.completes, Moment.executed,
        Option.isSome_some, if_true, clock_advance, clock_countDown, clockAfter, clockAsked,
        awaited, received, resyncClock, setReg]
    | executed instruction after flow running free decoded done moves =>
      simp [Moment.readings?, Action.readings?, Moment.completes, Moment.executed,
        clock_advance, clock_countDown, clockAfter, clockAsked, free, (execute_kept done).clock]
  | load program => rw [after_load]; simp [Moment.readings?, Action.readings?]
  | pause => rfl
  | present => rfl

/-- A machine that has completed an instruction waits for nothing. -/
theorem act_free {machine : Machine} {action : Action}
    (completed : (machine.act action).completes = true) :
    (machine.act action).after.waiting = none := by
  cases action with
  | cycle keyboard now =>
    obtain ⟨transition, course, acted⟩ := act_course machine keyboard now
    rw [acted] at completed ⊢
    have ready := course.ready
    cases course with
    | halted | waiting | unknown | refused | blocked => cases completed
    | resumed instruction | executed instruction => exact (ready instruction rfl).2
  | load program => simp [Moment.completes, Moment.executed] at completed
  | pause => cases completed
  | present => cases completed

section Runs

variable (settings : Settings) (start : Instant) (entropy : Random.StreamKey)

/-- While a timer is not set it loses the periods of all moments. -/
theorem run_countsDown (timer : Timer) (earlier later : List Action)
    (unset : ∀ moment ∈ ((boot settings start entropy).run earlier).history later,
      moment.written? timer = none) :
    (((boot settings start entropy).run (earlier ++ later)).timer timer).toNat =
      (((boot settings start entropy).run earlier).timer timer).toNat -
        ((((boot settings start entropy).run earlier).history later).map Moment.periods).sum := by
  induction later using List.reverseRecOn with
  | nil => simp [history]
  | append_singleton before action inductionHypothesis =>
    let first := (boot settings start entropy).run earlier
    let middle := (boot settings start entropy).run (earlier ++ before)
    have meets : first.run before = middle := (run_append _ _ _).symm
    have cut :
        first.history (before ++ [action]) = first.history before ++ [middle.act action] := by
      rw [history_append, meets]
      rfl
    have steps : (boot settings start entropy).run (earlier ++ (before ++ [action])) =
        (middle.act action).after := by
      rw [← List.append_assoc, run_append]
      rfl
    rw [cut] at unset
    obtain ⟨unsetBefore, unsetLast⟩ := List.forall_mem_append.mp unset
    have counted := act_countsDown middle action
      (run_waitsDecoded settings start entropy (earlier ++ before)) timer
    rw [Moment.CountsDown, unsetLast _ (List.mem_singleton_self _), Option.getD_none, act_before]
      at counted
    calc (((boot settings start entropy).run (earlier ++ (before ++ [action]))).timer timer).toNat
      _ = (middle.timer timer).toNat - (middle.act action).periods := by rw [steps, counted]
      _ = (first.timer timer).toNat - ((first.history before).map Moment.periods).sum -
          (middle.act action).periods := by rw [inductionHypothesis unsetBefore]
      _ = (first.timer timer).toNat -
          ((first.history (before ++ [action])).map Moment.periods).sum := by
        rw [cut, List.map_append, List.sum_append, Nat.sub_add_eq]
        rfl

/-- After every run a timer shows the value it was last set to, less the periods of all
moments since, stopping at zero. -/
theorem timer_lastSet (timer : Timer) (actions : List Action) {earlier since : List Moment}
    {value : UInt8}
    (last : timer.LastSet ((boot settings start entropy).history actions) earlier since value) :
    (((boot settings start entropy).run actions).timer timer).toNat =
      value.toNat - (since.map Moment.periods).sum := by
  cases last with
  | never unset =>
    have shown := run_countsDown settings start entropy timer [] actions unset
    rw [List.nil_append] at shown
    rw [shown]
    cases timer <;> rfl
  | once earlier later moment value cut wrote kept =>
    obtain ⟨done, following, rfl, -, tail⟩ := history_split _ _ _ _ cut
    cases following with
    | nil => cases tail
    | cons action rest =>
      obtain ⟨rfl, rfl⟩ := List.cons.inj tail
      have counted := act_countsDown _ action (run_waitsDecoded settings start entropy done) timer
      rw [Moment.CountsDown, wrote, Option.getD_some] at counted
      have reached : ((boot settings start entropy).run (done ++ [action])) =
          (((boot settings start entropy).run done).act action).after := run_append _ _ _
      have shown := run_countsDown settings start entropy timer (done ++ [action]) rest
        (reached ▸ kept)
      rw [List.append_assoc, List.singleton_append, reached, counted] at shown
      rw [shown, List.map_cons, List.sum_cons, Nat.sub_add_eq]

end Runs

end Machine

end Chip8
