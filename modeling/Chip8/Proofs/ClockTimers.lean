import Chip8.Proofs.Ticking

/-!
# Timers that follow a clock

As long as every cycle of a run completes an instruction and no answer of the clock is at
its limit, the clock has reported every whole period since the machine's construction: no
wait begins, so nothing of what has passed is lost. A timer then shows the value it was last
set to less the beats of the clock since the cycle before the one that set it. Neither the
number of cycles in between nor their times matter, only the time of the last one does.
-/

namespace Chip8

/-- A history of cycles at times in order, from a start on, which all complete an
instruction and never find more periods than the clock can report at once. Other actions may
lie between the cycles. -/
structure Steady (since : Instant) (history : List Moment) : Prop where
  ordered : (since :: instants history).Pairwise (· ≤ ·)
  completed : ∀ moment ∈ history, moment.action.isCycle = true → moment.completes = true
  uncapped : ∀ moment ∈ history, moment.Uncapped

namespace Steady

variable {since : Instant} {moment : Moment} {first second later history : List Moment}

/-- A steady history is orderly. -/
theorem orderly (steady : Steady since history) : Orderly since history :=
  ⟨steady.ordered, fun moment member cycle => Or.inl (steady.completed moment member cycle)⟩

/-- The first part of a steady history is steady. -/
theorem left (steady : Steady since (first ++ second)) : Steady since first := by
  obtain ⟨ordered, -⟩ := steady.orderly.split.1
  refine ⟨ordered, ?_, ?_⟩
  · exact fun moment member => steady.completed moment (List.mem_append_left second member)
  · exact fun moment member => steady.uncapped moment (List.mem_append_left second member)

/-- What follows on the first moment is steady from its time on. -/
theorem tail (steady : Steady since (moment :: later)) :
    Steady (moment.instant?.getD since) later := by
  obtain ⟨ordered, -⟩ := steady.orderly.tail
  refine ⟨ordered, ?_, ?_⟩
  · exact fun other member => steady.completed other (List.mem_cons_of_mem moment member)
  · exact fun other member => steady.uncapped other (List.mem_cons_of_mem moment member)

/-- The first moment does not precede the start. -/
theorem le_first (steady : Steady since (moment :: later)) :
    since ≤ moment.instant?.getD since := by
  cases instant : moment.instant? with
  | none => exact Nat.le_refl since
  | some now => exact steady.orderly.le_instant instant

/-- A history does not end before its start. -/
theorem le_last (steady : Steady since history) : since ≤ lastInstant since history := by
  induction history generalizing since with
  | nil => exact Nat.le_refl since
  | cons moment later inductionHypothesis =>
    rw [lastInstant_cons]
    exact Nat.le_trans steady.le_first (inductionHypothesis steady.tail)

end Steady

namespace Machine

/-- An action that completes an instruction if it is a cycle begins no wait. -/
theorem act_unblocked {machine : Machine} {action : Action} (free : machine.waiting = none)
    (steady : action.isCycle = true → (machine.act action).completes = true) :
    (machine.act action).blocks = false ∧ (machine.act action).after.waiting = none := by
  have passing : (machine.act action).blocks = false := by
    cases action with
    | cycle keyboard now =>
      rw [Moment.blocks, Moment.waits_of_completes (steady rfl), Bool.and_false]
    | load program => simp [Moment.blocks, Moment.waits]
    | pause => exact Bool.and_false _
    | present => exact Bool.and_false _
  refine ⟨passing, ?_⟩
  cases completed : (machine.act action).completes with
  | true => exact act_free completed
  | false => rw [act_waiting_kept completed passing, free]

/-- A free machine begins no wait in a steady history, and so it is free and runs all the
time. -/
theorem run_unblocked {machine : Machine} {since : Instant} (free : machine.waiting = none)
    (actions : List Action) (steady : Steady since (machine.history actions)) :
    (∀ moment ∈ machine.history actions, moment.isFree = true) ∧
      (machine.history actions).countP Moment.blocks = 0 ∧
      timeInto Moment.ran since (machine.history actions) =
        lastInstant since (machine.history actions) - since := by
  induction actions generalizing machine since with
  | nil =>
    exact ⟨fun moment member => absurd member List.not_mem_nil, rfl, (Nat.sub_self since).symm⟩
  | cons action later inductionHypothesis =>
    have completes := steady.completed _ List.mem_cons_self
    rw [act_action] at completes
    obtain ⟨passing, vacant⟩ := act_unblocked free completes
    obtain ⟨waitless, unblocked, spent⟩ := inductionHypothesis vacant steady.tail
    have first : timeInto Moment.ran since [machine.act action] =
        (machine.act action).instant?.getD since - since := by
      cases instant : (machine.act action).instant? with
      | none => simp [timeInto, instant]
      | some now =>
        have cycle := isCycle_of_instant instant
        rw [act_action] at cycle
        simp [timeInto, Moment.ran, Moment.isFree, free, completes cycle, instant]
    refine ⟨List.forall_mem_cons.mpr ⟨?_, waitless⟩, ?_, ?_⟩
    · rw [Moment.isFree, act_before, free]
      rfl
    · rw [history, List.countP_cons, unblocked, passing]
      rfl
    · have started := steady.le_first
      have ended := steady.tail.le_last
      rw [history, timeInto_cons, lastInstant_cons, first, spent]
      lia

end Machine

/-- The whole periods from a start to the last cycle of a history. -/
def beats (hz : UInt32) (start : Instant) (history : List Moment) : Nat :=
  (lastInstant start history - start) / TimerClock.periodOf hz

namespace Machine

variable (settings : Settings) (hz : UInt32) (start : Instant) (entropy : Random.StreamKey)

/-- In a steady run from its construction a machine counts every whole period. -/
theorem sum_periods_steady (clocked : settings.timers = .clocked hz) (actions : List Action)
    (steady : Steady start ((boot settings start entropy).history actions)) :
    (((boot settings start entropy).history actions).map Moment.periods).sum =
      beats hz start ((boot settings start entropy).history actions) := by
  have timed : (boot settings start entropy).clock = some (.start hz start) := by
    simp only [boot, clocked]
  have ticking : (boot settings start entropy).Ticking (TimerClock.periodOf hz) start 0 :=
    .running (.start hz start) 0 rfl timed rfl rfl (TimerClock.start hz start).period_pos
  obtain ⟨waitless, unblocked, spent⟩ := run_unblocked rfl actions steady
  obtain ⟨counted, missed⟩ := run_ticking ticking actions steady.orderly
    (fun moment member _ => steady.uncapped moment member)
    (fun moment member waits => nomatch (waitless moment member).symm.trans waits)
  rw [spent, Nat.add_zero, Nat.mul_comm] at counted
  rw [unblocked, spent, Nat.add_zero, Nat.add_zero, Nat.mul_comm] at missed
  exact (Nat.div_eq_of_lt_le counted missed).symm

/-- After a steady run a timer shows the value it was last set to less the beats from the
last cycle before it was set to the last cycle of all. -/
theorem toNat_timer_steady (clocked : settings.timers = .clocked hz) (timer : Timer)
    (actions : List Action) (steady : Steady start ((boot settings start entropy).history actions))
    {earlier since : List Moment} {value : UInt8}
    (last : timer.LastSet ((boot settings start entropy).history actions) earlier since value) :
    (((boot settings start entropy).run actions).timer timer).toNat =
      value.toNat - (beats hz start ((boot settings start entropy).history actions) -
        beats hz start earlier) := by
  have cut := last.cut
  obtain ⟨done, following, -, rfl, -⟩ := history_split _ _ _ _ cut
  have whole := sum_periods_steady settings hz start entropy clocked actions steady
  have part := sum_periods_steady settings hz start entropy clocked done (cut ▸ steady).left
  have together := congrArg (fun history => (history.map Moment.periods).sum) cut
  simp only [List.map_append, List.sum_append] at together
  have counted : (since.map Moment.periods).sum =
      beats hz start ((boot settings start entropy).history actions) -
        beats hz start ((boot settings start entropy).history done) := by
    lia
  rw [← counted]
  exact timer_lastSet settings start entropy timer actions last

/-- Clocked timers follow elapsed time. In every steady run a timer of a machine shows the
value it was last set to, zero if it never was, less the whole periods from the construction
to the last cycle over those to the last cycle before it was set, stopping at zero. In
particular any other steady run in which it was set to the same value after a cycle at the
same time, and which ends at the same time, shows the same: cycles in between may be
inserted, removed and moved.

Proof: a timer shows the value it was last set to less the periods counted since. The whole
history and the part of it before the timer was set are both steady, so each has counted
exactly the whole periods until its last cycle, and what was counted since is the
difference. -/
theorem timers_follow_elapsed_time (actions : List Action)
    (clocked : settings.timers = .clocked hz)
    (steady : Steady start ((boot settings start entropy).history actions)) :
    let machine := boot settings start entropy
    ∀ timer : Timer,
      (∃ earlier since value, timer.LastSet (machine.history actions) earlier since value) ∧
      ∀ earlier since value, timer.LastSet (machine.history actions) earlier since value →
        ((machine.run actions).timer timer).toNat =
          value.toNat - (beats hz start (machine.history actions) - beats hz start earlier) ∧
        ∀ others before after, Steady start (machine.history others) →
          timer.LastSet (machine.history others) before after value →
          lastInstant start before = lastInstant start earlier →
          lastInstant start (machine.history others) =
            lastInstant start (machine.history actions) →
          (machine.run others).timer timer = (machine.run actions).timer timer := by
  intro machine timer
  refine ⟨timer.exists_lastSet (machine.history actions), ?_⟩
  intro earlier since value last
  have shown := toNat_timer_steady settings hz start entropy clocked timer actions steady last
  refine ⟨shown, ?_⟩
  intro others before after steadyToo lastToo setThen endsThen
  have other := toNat_timer_steady settings hz start entropy clocked timer others steadyToo lastToo
  apply UInt8.toNat_inj.mp
  rw [shown, other]
  simp only [beats, setThen, endsThen, machine]

/-- `600A`, `F015` and a jump to itself. -/
def tenBeats : List UInt8 :=
  [0x60, 0x0A, 0xF0, 0x15, 0x12, 0x04]

/-- A thousand beats a second, that is one each millisecond. The cycle before the one that
sets the timer to ten lies ahead of the first beat, and the run ends just short of the tenth:
one is left, with two jumps in between or with none. -/
theorem beats_cross_cycles :
    let settings : Settings := { timers := .clocked 1000 }
    let machine := boot settings 0 (Vector.replicate 8 0)
    let early := [.load tenBeats, .cycle .idle (.still 300000)]
    let actions := early ++ [.cycle .idle (.still 2500000), .cycle .idle (.still 3900000),
      .cycle .idle (.still 4100000), .cycle .idle (.still 9990000)]
    let fewer := early ++ [.cycle .idle (.still 2500000), .cycle .idle (.still 9990000)]
    (Steady 0 (machine.history actions) ∧ Steady 0 (machine.history fewer)) ∧
      ((machine.run actions).timer .delay).toNat = 10 - (9 - 0) ∧
      (machine.run fewer).timer .delay = (machine.run actions).timer .delay := by
  intro settings machine early actions fewer
  let setting := (machine.run early).act (.cycle .idle (.still 2500000))
  have steady : Steady 0 (machine.history actions) :=
    ⟨by decide +kernel, by decide +kernel, by decide +kernel⟩
  have steadyFewer : Steady 0 (machine.history fewer) :=
    ⟨by decide +kernel, by decide +kernel, by decide +kernel⟩
  obtain ⟨wrote, whole, part, ends⟩ :
      setting.written? .delay = some 10 ∧ beats 1000 0 (machine.history actions) = 9 ∧
      beats 1000 0 (machine.history early) = 0 ∧
      lastInstant 0 (machine.history fewer) = lastInstant 0 (machine.history actions) := by
    decide +kernel
  have last : Timer.LastSet .delay (machine.history actions) (machine.history early)
      (setting :: setting.after.history _) 10 :=
    .once _ _ _ _ (history_append machine _ _) wrote (by decide +kernel)
  have lastFewer : Timer.LastSet .delay (machine.history fewer) (machine.history early)
      (setting :: setting.after.history _) 10 :=
    .once _ _ _ _ (history_append machine _ _) wrote (by decide +kernel)
  obtain ⟨-, follows⟩ := timers_follow_elapsed_time settings 1000 0 (Vector.replicate 8 0)
    actions rfl steady .delay
  obtain ⟨shown, same⟩ := follows _ _ _ last
  rw [whole, part] at shown
  exact ⟨⟨steady, steadyFewer⟩, shown, same fewer _ _ steadyFewer lastFewer rfl ends⟩

end Machine

end Chip8
