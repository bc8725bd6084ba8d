import Chip8.Proofs.Timers

/-!
# Histories in time

Cycles have a time, that at which they count the timers down, and the other actions of a host
have none. A history therefore passes in intervals, each of which ends in a cycle and begins
with the cycle before it, and what kind of interval it is depends on that cycle alone: whether
the machine was waiting for a key until then, and whether an instruction was completed or a
wait began.
-/

namespace Chip8

/-- The times of the cycles of a history. -/
def instants (history : List Moment) : List Instant :=
  history.filterMap Moment.instant?

/-- The time of the last cycle, or a given one before the first. -/
def lastInstant (start : Instant) (history : List Moment) : Instant :=
  (instants history).getLastD start

/-- The time from a start to the last cycle of a history, as far as it passes in intervals
between two cycles that end in a cycle of a kind. -/
def timeInto (kind : Moment → Bool) (since : Instant) : List Moment → Nat
  | [] => 0
  | moment :: later =>
    let now := moment.instant?.getD since
    (if kind moment then now - since else 0) + timeInto kind now later

namespace Moment

/-- Whether the machine waits for no key when the moment begins. -/
def isFree (moment : Moment) : Bool :=
  moment.before.waiting.isNone

/-- Whether the answer is that the machine waits for a key. -/
def waits (moment : Moment) : Bool :=
  match moment.answer with
  | .cycled (.ok .waitingForKey) => true
  | _ => false

/-- Whether the moment is a key wait that finds no key held and begins to block. -/
def blocks (moment : Moment) : Bool :=
  moment.isFree && moment.waits

/-- Whether an instruction is completed that no wait came before. -/
def ran (moment : Moment) : Bool :=
  moment.isFree && moment.completes

/-- In a cycle the clock, if there is one, can report all periods that have passed. -/
def Uncapped (moment : Moment) : Prop :=
  ∀ now ∈ moment.instant?, ∀ clock ∈ moment.before.clock, clock.Uncapped now

instance (moment : Moment) : Decidable moment.Uncapped :=
  inferInstanceAs (Decidable (∀ now ∈ moment.instant?, ∀ clock ∈ moment.before.clock, _))

/-- Within a cycle the clock stands still. -/
def Still (moment : Moment) : Prop :=
  ∀ now ∈ moment.readings?, now.resumed = now.counted

instance (moment : Moment) : Decidable moment.Still :=
  inferInstanceAs (Decidable (∀ now ∈ moment.readings?, _))

end Moment

/-- A history of cycles at times in order, from a start on, each of which completes an
instruction or waits for a key. Other actions may lie between the cycles. -/
structure Orderly (since : Instant) (history : List Moment) : Prop where
  ordered : (since :: instants history).Pairwise (· ≤ ·)
  calm : ∀ moment ∈ history, moment.action.isCycle = true →
    moment.completes = true ∨ moment.waits = true

namespace Orderly

variable {since : Instant} {moment : Moment} {later : List Moment}

/-- What follows on the first moment is orderly from its time on. -/
theorem tail (orderly : Orderly since (moment :: later)) :
    Orderly (moment.instant?.getD since) later := by
  obtain ⟨ordered, calm⟩ := orderly
  refine ⟨?_, fun other member => calm other (List.mem_cons_of_mem moment member)⟩
  cases timed : moment.instant? with
  | none => simpa [instants, timed] using ordered
  | some now =>
    rw [instants, List.filterMap_cons_some timed] at ordered
    exact (List.pairwise_cons.mp ordered).2

/-- The first cycle does not precede the start. -/
theorem le_instant (orderly : Orderly since (moment :: later)) {now : Instant}
    (timed : moment.instant? = some now) : since ≤ now := by
  have ordered := orderly.ordered
  rw [instants, List.filterMap_cons_some timed] at ordered
  exact (List.pairwise_cons.mp ordered).1 now List.mem_cons_self

end Orderly

/-- The time of a cycle is the last of its readings. -/
theorem instant_of_readings {moment : Moment} {now : Readings}
    (read : moment.readings? = some now) : moment.instant? = some now.counted := by
  rw [Moment.instant?, read, Option.map_some]

/-- Only cycles have a time. -/
theorem isCycle_of_instant {moment : Moment} {now : Instant}
    (instant : moment.instant? = some now) : moment.action.isCycle = true := by
  rw [Moment.instant?, Moment.readings?] at instant
  cases action : moment.action with
  | cycle keyboard now => rfl
  | load | pause | present => rw [action] at instant; cases instant

/-- A history begins with its first interval. -/
theorem timeInto_cons (kind : Moment → Bool) (since : Instant) (moment : Moment)
    (later : List Moment) :
    timeInto kind since (moment :: later) =
      timeInto kind since [moment] + timeInto kind (moment.instant?.getD since) later := rfl

/-- The last cycle of a history is that of what follows on its first moment, if there is one. -/
theorem lastInstant_cons (start : Instant) (moment : Moment) (later : List Moment) :
    lastInstant start (moment :: later) = lastInstant (moment.instant?.getD start) later := by
  cases timed : moment.instant? with
  | none => rw [lastInstant, instants, List.filterMap_cons_none timed, Option.getD_none]; rfl
  | some now =>
    rw [lastInstant, instants, List.filterMap_cons_some timed, List.getLastD_cons,
      Option.getD_some]
    rfl

/-- An orderly history is orderly in both parts, the second from the last cycle of the first
on. -/
theorem Orderly.split {since : Instant} {first second : List Moment}
    (orderly : Orderly since (first ++ second)) :
    Orderly since first ∧ Orderly (lastInstant since first) second := by
  constructor
  · refine ⟨?_, fun moment member => orderly.calm moment (List.mem_append_left second member)⟩
    have ordered := orderly.ordered
    rw [instants, List.filterMap_append, ← List.cons_append] at ordered
    exact (List.pairwise_append.mp ordered).1
  · induction first generalizing since with
    | nil => exact orderly
    | cons moment later inductionHypothesis =>
      rw [lastInstant_cons]
      exact inductionHypothesis orderly.tail

/-- A cycle that completes an instruction does not wait. -/
theorem Moment.waits_of_completes {moment : Moment} (completed : moment.completes = true) :
    moment.waits = false := by
  unfold completes executed at completed
  unfold waits
  split at completed
  · rename_i answered
    rw [answered]
  · cases completed

/-- Where every cycle completes an instruction or waits, the time in which a machine is free
is the time in which it ran and the time that led to a wait. -/
theorem timeInto_isFree {since : Instant} {history : List Moment}
    (orderly : Orderly since history) :
    timeInto Moment.isFree since history =
      timeInto Moment.ran since history + timeInto Moment.blocks since history := by
  induction history generalizing since with
  | nil => rfl
  | cons moment later inductionHypothesis =>
    have first : timeInto Moment.isFree since [moment] =
        timeInto Moment.ran since [moment] + timeInto Moment.blocks since [moment] := by
      cases instant : moment.instant? with
      | none => simp [timeInto, instant]
      | some now =>
        have cycle : moment.action.isCycle = true := isCycle_of_instant instant
        have kind := orderly.calm moment List.mem_cons_self cycle
        cases completed : moment.completes with
        | true =>
          simp [timeInto, Moment.ran, Moment.blocks, completed, Moment.waits_of_completes completed]
        | false =>
          have waits := kind.resolve_left (by simp [completed])
          simp [timeInto, Moment.ran, Moment.blocks, completed, waits]
    rw [timeInto_cons, timeInto_cons Moment.ran, timeInto_cons Moment.blocks, first,
      inductionHypothesis orderly.tail]
    omega

end Chip8
