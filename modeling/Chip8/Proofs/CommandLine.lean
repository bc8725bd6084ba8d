import Chip8.Cli.Outcome
import Chip8.Proofs.Cycle

/-!
# What the command line runs

A session makes the cycles of its machine without keys, one after the other, and no others. It
goes on while instructions are completed, up to the limit, and ends with the first cycle that
completes none: a fault or a wait, since a machine that neither is halted nor faults is never
found halted.

Which cycles these are is said of the machine alone. A run notes every cycle it makes, so what
it has noted at its end tells which they were, whatever is noted of them. One law for each kind
of turn ties these cycles to those of the machine, and an induction over the completed cycles
gives the whole run. Arguments that name something that is not in order are refused before any
cycle is made.
-/

namespace Chip8

/-- Whether a cycle completed an instruction. -/
def Transition.completes (transition : Transition) : Bool :=
  match transition.result with
  | .ok (.executed _) => true
  | _ => false

/-- What was completed is an instruction. -/
theorem Transition.result_of_completes {transition : Transition}
    (completed : transition.completes = true) :
    ∃ instruction, transition.result = .ok (.executed instruction) := by
  rw [completes] at completed
  split at completed
  · exact ⟨_, by assumption⟩
  · cases completed

namespace Machine

/-- A machine after a number of cycles without keys, each with its readings of the clock. -/
def idled (machine : Machine) (clock : Nat → Readings) : Nat → Machine
  | 0 => machine
  | count + 1 => ((machine.idled clock count).cycle .idle (clock count)).machine

/-- The next of these cycles. -/
def idleCycle (machine : Machine) (clock : Nat → Readings) (count : Nat) : Transition :=
  (machine.idled clock count).cycle .idle (clock count)

/-- The first of these cycles, as many as asked for. -/
def idleCycles (machine : Machine) (clock : Nat → Readings) (count : Nat) : List Transition :=
  (List.range count).map (machine.idleCycle clock)

/-- One cycle more stands behind the others. -/
theorem idleCycles_succ (machine : Machine) (clock : Nat → Readings) (count : Nat) :
    machine.idleCycles clock (count + 1) =
      machine.idleCycles clock count ++ [machine.idleCycle clock count] := by
  rw [idleCycles, List.range_succ, List.map_append]
  rfl

/-- What completes an instruction is running afterwards. -/
theorem running_of_completes {machine : Machine} {keyboard : Keyboard} {now : Readings}
    (completed : (machine.cycle keyboard now).completes = true) :
    (machine.cycle keyboard now).machine.halted = false := by
  obtain ⟨instruction, result⟩ := Transition.result_of_completes completed
  obtain ⟨running, -⟩ := (cycle_course machine keyboard now).ready instruction result
  exact running

/-- A cycle of a running machine that completes no instruction faults or waits. -/
theorem faults_or_waits {machine : Machine} {keyboard : Keyboard} {now : Readings}
    (running : machine.halted = false)
    (incomplete : (machine.cycle keyboard now).completes = false) :
    (∃ fault, (machine.cycle keyboard now).result = .error fault) ∨
      (machine.cycle keyboard now).result = .ok .waitingForKey := by
  have course := cycle_course machine keyboard now
  generalize machine.cycle keyboard now = transition at course incomplete ⊢
  cases course with
  | halted stopped => exact absurd (running.symm.trans stopped) Bool.false_ne_true
  | waiting | blocked => exact .inr rfl
  | unknown fault | refused instruction fault => exact .inl ⟨fault, rfl⟩
  | resumed | executed => cases incomplete

/-- Completed cycles leave a running machine running. -/
theorem idled_running {machine : Machine} {clock : Nat → Readings}
    (running : machine.halted = false) :
    ∀ count, (∀ earlier < count, (machine.idleCycle clock earlier).completes = true) →
      (machine.idled clock count).halted = false
  | 0, _ => running
  | count + 1, completed => running_of_completes (completed count (Nat.lt_succ_self count))

end Machine

namespace Cli

namespace Session

/-- The limit is reached when there is one and no fewer instructions were executed. -/
theorem isOver_iff (session : Session) :
    session.isOver = true ↔ session.limit ≠ 0 ∧ session.limit ≤ session.executed := by
  simp only [isOver, Bool.and_eq_true, decide_eq_true_iff]

/-- A cycle and the rest of its time make up the time it should last. A cycle that took longer
has no rest. -/
theorem rest_eq_some_iff {pacing passed left : Nat} :
    rest pacing passed = some left ↔ passed + left = pacing := by
  unfold rest
  split
  · rw [Option.some_inj]
    omega
  · simp only [reduceCtorEq, false_iff]
    omega

/-- A session after a number of completed cycles. -/
def reached (machine : Machine) (limit : Nat) (clock : Nat → Readings) (count : Nat) : Session :=
  ⟨machine.idled clock count, limit, count⟩

section Turns

variable {machine : Machine} {limit : Nat} {clock : Nat → Readings} {count : Nat}

/-- The machine that is reached is the idled one. -/
@[simp] theorem reached_machine :
    (reached machine limit clock count).machine = machine.idled clock count := rfl

/-- What has been executed is counted. -/
@[simp] theorem reached_executed : (reached machine limit clock count).executed = count := rfl

/-- At its limit a session stops without a cycle. -/
theorem turn_over {α : Type} (note : α → Transition → α) (noted : α) (fuel : Nat)
    (atLimit : limit ≠ 0 ∧ limit ≤ count) :
    (reached machine limit clock count).run clock note (fuel + 1) noted =
      some (noted, ⟨machine.idled clock count, count, .limitReached⟩) := by
  have stops := (isOver_iff (reached machine limit clock count)).mpr atLimit
  rw [run, step, if_pos stops]
  rfl

/-- Below its limit a session goes on when a cycle is completed. -/
theorem turn_completed {α : Type} (note : α → Transition → α) (noted : α) (fuel : Nat)
    (below : ¬ (limit ≠ 0 ∧ limit ≤ count))
    (completed : (machine.idleCycle clock count).completes = true) :
    (reached machine limit clock count).run clock note (fuel + 1) noted =
      (reached machine limit clock (count + 1)).run clock note fuel
        (note noted (machine.idleCycle clock count)) := by
  have goes := mt (isOver_iff (reached machine limit clock count)).mp below
  obtain ⟨instruction, result⟩ := Transition.result_of_completes completed
  rw [Machine.idleCycle] at result
  have turn : (reached machine limit clock count).step (clock count) =
      (.running (reached machine limit clock (count + 1)),
        some (machine.idleCycle clock count)) := by
    simp only [step, if_neg goes, reached_machine, result]
    rfl
  rw [run, reached_executed, turn]
  rfl

/-- Below its limit a session ends with the cycle that completes nothing. -/
theorem turn_incomplete (below : ¬ (limit ≠ 0 ∧ limit ≤ count))
    (running : (machine.idled clock count).halted = false)
    (incomplete : (machine.idleCycle clock count).completes = false) :
    ∃ ending,
      (∀ (α : Type) (note : α → Transition → α) (noted : α) (fuel : Nat),
        (reached machine limit clock count).run clock note (fuel + 1) noted =
          some (note noted (machine.idleCycle clock count),
            ⟨machine.idled clock (count + 1), count, ending⟩)) ∧
      ((∃ fault, ending = .faulted fault ∧
          (machine.idleCycle clock count).result = .error fault) ∨
        ending = .waitingForKey ∧ (machine.idleCycle clock count).result = .ok .waitingForKey) := by
  have goes := mt (isOver_iff (reached machine limit clock count)).mp below
  obtain ⟨fault, result⟩ | result := Machine.faults_or_waits running incomplete
  · have turn : (reached machine limit clock count).step (clock count) =
        (.stopped ⟨machine.idled clock (count + 1), count, .faulted fault⟩,
          some (machine.idleCycle clock count)) := by
      simp only [step, if_neg goes, reached_machine, result]
      rfl
    refine ⟨.faulted fault, ?_, .inl ⟨fault, rfl, result⟩⟩
    intro α note noted fuel
    rw [run, reached_executed, turn]
    rfl
  · have turn : (reached machine limit clock count).step (clock count) =
        (.stopped ⟨machine.idled clock (count + 1), count, .waitingForKey⟩,
          some (machine.idleCycle clock count)) := by
      simp only [step, if_neg goes, reached_machine, result]
      rfl
    refine ⟨.waitingForKey, ?_, .inr ⟨rfl, result⟩⟩
    intro α note noted fuel
    rw [run, reached_executed, turn]
    rfl

end Turns

/-- As long as cycles are completed a session below its limit makes one after the other. -/
theorem run_completed {α : Type} (note : α → Transition → α) (noted : α) (machine : Machine)
    (limit : Nat) (clock : Nat → Readings) (count fuel : Nat)
    (within : limit = 0 ∨ count ≤ limit)
    (completed : ∀ earlier < count, (machine.idleCycle clock earlier).completes = true) :
    (reached machine limit clock 0).run clock note (count + fuel) noted =
      (reached machine limit clock count).run clock note fuel
        ((machine.idleCycles clock count).foldl note noted) := by
  induction count generalizing fuel with
  | zero =>
    rw [Nat.zero_add]
    rfl
  | succ count inductionHypothesis =>
    have below : ¬ (limit ≠ 0 ∧ limit ≤ count) := by omega
    have ran := inductionHypothesis (fuel + 1) (by omega)
      fun earlier before => completed earlier (by omega)
    rw [Nat.add_right_comm count 1 fuel, Nat.add_assoc, ran,
      turn_completed note _ fuel below (completed count (Nat.lt_succ_self count)),
      Machine.idleCycles_succ, List.foldl_append]
    rfl

/-- A session makes just the first cycles of a machine, notes them in order, and reports the
machine as they leave it. -/
def Ends (session : Session) (clock : Nat → Readings) (machine : Machine)
    (count executed : Nat) (ending : Ending) : Prop :=
  ∀ (α : Type) (note : α → Transition → α) (noted : α) (fuel : Nat), count < fuel →
    session.run clock note fuel noted =
      some ((machine.idleCycles clock count).foldl note noted,
        ⟨machine.idled clock count, executed, ending⟩)

section Endings

variable {machine : Machine} {limit last : Nat} {clock : Nat → Readings}

/-- With every cycle below a limit completed a session makes as many as the limit says. -/
theorem ends_at_limit (limited : 0 < limit)
    (completed : ∀ earlier < limit, (machine.idleCycle clock earlier).completes = true) :
    (reached machine limit clock 0).Ends clock machine limit limit .limitReached := by
  intro α note noted fuel enough
  obtain ⟨spare, rfl⟩ := Nat.exists_eq_add_of_lt enough
  have atLimit : limit ≠ 0 ∧ limit ≤ limit := by omega
  rw [Nat.add_assoc, run_completed note noted machine limit clock limit (spare + 1) (by omega)
    completed, turn_over note _ spare atLimit]

/-- The first cycle below the limit that is not completed is the last of a session. -/
theorem ends_at_incomplete (running : machine.halted = false) (within : limit = 0 ∨ last < limit)
    (completed : ∀ earlier < last, (machine.idleCycle clock earlier).completes = true)
    (incomplete : (machine.idleCycle clock last).completes = false) :
    ∃ ending, (reached machine limit clock 0).Ends clock machine (last + 1) last ending ∧
      ((∃ fault, ending = .faulted fault ∧
          (machine.idleCycle clock last).result = .error fault) ∨
        ending = .waitingForKey ∧ (machine.idleCycle clock last).result = .ok .waitingForKey) := by
  have still := Machine.idled_running running last completed
  have below : ¬ (limit ≠ 0 ∧ limit ≤ last) := by omega
  obtain ⟨ending, ended, cause⟩ := turn_incomplete below still incomplete
  refine ⟨ending, ?_, cause⟩
  intro α note noted fuel enough
  obtain ⟨spare, rfl⟩ := Nat.exists_eq_add_of_lt enough
  have turns : last + 1 + spare + 1 = last + (spare + 2) := by omega
  rw [turns, run_completed note noted machine limit clock last (spare + 2) (by omega) completed,
    ended α note _ (spare + 1), Machine.idleCycles_succ, List.foldl_append]
  rfl

end Endings

end Session

/-- The status tells of a fault exactly when the log does. -/
theorem status_eq_one_iff (report : Report) :
    (Outcome.finished report).status = 1 ↔
      ∃ notice ∈ report.notices, notice.severity = .error := by
  cases ending : report.ending <;>
    simp [Outcome.finished, Report.notices, Notice.severity, ending]

/-- The settings of the file that the arguments name, or the defaults. -/
def fileSettings (read : String → FileContent) (arguments : Arguments) : Except Error Settings :=
  match arguments.settings with
  | none => .ok {}
  | some path => Settings.ofFile (read path)

/-- Everything that the arguments name is in order: the log level has a meaning, the settings
can be read, if there are any, and so can the program, which fits into memory. -/
structure Accepted (read : String → FileContent) (arguments : Arguments) (settings : Settings)
    (image : List UInt8) : Prop where
  level : (Severity.ofName arguments.logLevel).isSome = true
  settings : fileSettings read arguments = .ok settings
  program : read arguments.program = .ok image
  fits : image.length ≤ 3584

/-- Settings with the seed of the command line, if there is one, and with timers at 60 beats
per second. -/
def overridden (settings : Settings) (seed : Option UInt64) : Settings :=
  { settings with seed := seed.or settings.seed, timers := .clocked 60 }

/-- The machine for overridden settings, with a program loaded. -/
def prepared (settings : Settings) (seed : Option UInt64) (image : List UInt8)
    (started : Instant) (entropy : Random.StreamKey) : Machine :=
  ((Machine.boot (overridden settings seed) started entropy).act (.load image)).after

/-- A prepared machine is running. -/
theorem prepared_running (settings : Settings) (seed : Option UInt64) (image : List UInt8)
    (started : Instant) (entropy : Random.StreamKey) :
    (prepared settings seed image started entropy).halted = false := by
  rw [prepared, Machine.after_load]
  rfl

section Conducting

variable (read : String → FileContent) (arguments : Arguments) (started : Instant)
  (clock : Nat → Readings) (entropy : Random.StreamKey)

variable {read arguments}

/-- The settings of a session are those of the file, overridden. -/
theorem settingsOf_eq : Session.settingsOf read arguments =
    (fileSettings read arguments).map fun settings => overridden settings arguments.seed := by
  simp only [Session.settingsOf, fileSettings]
  cases arguments.settings with
  | none => rfl
  | some path => cases Settings.ofFile (read path) <;> rfl

/-- What is accepted is begun, with a machine that is ready for its first cycle. -/
theorem start_accepted {settings : Settings} {image : List UInt8}
    (accepted : Accepted read arguments settings image) :
    ∃ logged, Session.start read arguments started entropy =
      .ok (.reached (prepared settings arguments.seed image started entropy)
        arguments.ticks.toNat clock 0, logged) := by
  obtain ⟨severity, level⟩ := Option.isSome_iff_exists.mp accepted.level
  have fits : image.length ≤ Memory.programSize := accepted.fits
  refine ⟨(severity, .loaded image.length), ?_⟩
  rw [prepared, Machine.after_load, if_pos fits]
  simp only [Session.start, level, settingsOf_eq, accepted.settings, Except.map, accepted.program,
    Machine.loadFile, Machine.load, fits, if_true]
  rfl

/-- What is not accepted is refused. -/
theorem start_refused (rejected : ∀ settings image, ¬ Accepted read arguments settings image) :
    ∃ refusal, Session.start read arguments started entropy = .error refusal := by
  cases level : Severity.ofName arguments.logLevel with
  | none => exact ⟨.unknownLevel arguments.logLevel, by simp only [Session.start, level]⟩
  | some severity =>
    cases named : fileSettings read arguments with
    | error cause =>
      refine ⟨.unloadable cause, ?_⟩
      simp only [Session.start, level, settingsOf_eq, named, Except.map]
    | ok settings =>
      cases content : read arguments.program with
      | error cause =>
        refine ⟨.unloadable (.unreadable cause), ?_⟩
        simp only [Session.start, level, settingsOf_eq, named, Except.map, content,
          Machine.loadFile]
      | ok image =>
        have large : ¬ image.length ≤ Memory.programSize := fun fits =>
          rejected settings image ⟨by rw [level]; rfl, named, content, fits⟩
        refine ⟨.unloadable (.programTooLarge image.length Memory.programSize), ?_⟩
        simp only [Session.start, level, settingsOf_eq, named, Except.map, content,
          Machine.loadFile, Machine.load, large, if_false]

variable (read arguments)

/-- Just the first cycles of a machine without keys are made, and they are noted in order. Then
the program exits with a status, and its output is the screen as those cycles leave it. -/
def Stops (machine : Machine) (count status : Nat) : Prop :=
  ∀ (α : Type) (note : α → Transition → α) (noted : α) (fuel : Nat), count < fuel →
    conduct read arguments started clock entropy note noted fuel =
      some ((machine.idleCycles clock count).foldl note noted,
        ⟨status, (machine.idled clock count).screen.text, none⟩)

variable {read arguments started clock entropy}

/-- The program stops when its session ends, with the status of the report. -/
theorem stops_of_ends {session : Session} {logged : Severity × Event} {machine : Machine}
    {count executed : Nat} {ending : Ending}
    (begun : Session.start read arguments started entropy = .ok (session, logged))
    (ends : session.Ends clock machine count executed ending) :
    Stops read arguments started clock entropy machine count
      (Outcome.finished ⟨machine.idled clock count, executed, ending⟩).status := by
  intro α note noted fuel enough
  rw [conduct, begun]
  simp only [ends α note noted fuel enough]
  rfl

variable (read arguments started clock entropy)

/-- The command line runs exactly what it promises. When all it names is in order, its machine
has the settings of the file, or the defaults, under the seed of the command line and with
timers at 60 beats per second, and makes cycles without keys. If the limit is not zero and so
many cycles are completed, the program stops after them with status 0. Otherwise it stops after
the first cycle below the limit that is not completed, with status 1 for a fault and 0 for a
wait, and there is no other way not to be completed. In each case the cycles noted are just
these, and the output is the screen as they leave it. When something is not in order the status
is 2, the output is empty and no cycle is noted.

Proof: by induction over the completed cycles the session is where the machine is after them,
with as many turns to go. The next turn finds the limit reached or makes the cycle that ends
it. A machine is not halted after a completed cycle, so that one faults or waits. -/
theorem conducts_promised_cycles :
    (∀ settings image, Accepted read arguments settings image →
      let machine := prepared settings arguments.seed image started entropy
      let limit := arguments.ticks.toNat
      let stops := Stops read arguments started clock entropy machine
      (0 < limit → (∀ earlier < limit, (machine.idleCycle clock earlier).completes = true) →
        stops limit 0) ∧
      ∀ last, (limit = 0 ∨ last < limit) →
        (∀ earlier < last, (machine.idleCycle clock earlier).completes = true) →
        (machine.idleCycle clock last).completes = false →
          (∃ fault, (machine.idleCycle clock last).result = .error fault ∧ stops (last + 1) 1) ∨
          (machine.idleCycle clock last).result = .ok .waitingForKey ∧ stops (last + 1) 0) ∧
    ((∀ settings image, ¬ Accepted read arguments settings image) →
      ∀ (α : Type) (note : α → Transition → α) (noted : α) (fuel : Nat),
        ∃ complaint, conduct read arguments started clock entropy note noted fuel =
          some (noted, ⟨2, "", some complaint⟩)) := by
  constructor
  · intro settings image accepted machine limit stops
    obtain ⟨logged, begun⟩ := start_accepted started clock entropy accepted
    constructor
    · intro limited completed
      exact stops_of_ends begun (Session.ends_at_limit limited completed)
    · intro last within completed incomplete
      have running : machine.halted = false := prepared_running _ _ _ _ _
      obtain ⟨ending, ends, cause⟩ :=
        Session.ends_at_incomplete running within completed incomplete
      have stopped := stops_of_ends begun ends
      rcases cause with ⟨fault, rfl, result⟩ | ⟨rfl, result⟩
      · exact .inl ⟨fault, result, stopped⟩
      · exact .inr ⟨result, stopped⟩
  · intro rejected α note noted fuel
    obtain ⟨refusal, refused⟩ := start_refused started entropy rejected
    rw [conduct, refused]
    exact ⟨_, rfl⟩

end Conducting

/-- A settings file with a seed, and a program of one instruction before an unknown opcode. -/
def oneInstruction (path : String) : FileContent :=
  if path = "settings" then .ok (Utf8.encode "\x7b\"rng_seed\":9\x7d")
  else .ok [0x60, 0x01, 0x00, 0x00]

/-- The fault of the second and last cycle that the limit allows is still found. -/
theorem fault_on_last_tick :
    let arguments : Arguments := { program := "program", settings := some "settings", ticks := 2 }
    let settings : Settings := { seed := some 9 }
    let image : List UInt8 := [0x60, 0x01, 0x00, 0x00]
    let clock (cycle : Nat) : Readings := .still (2000000 * cycle)
    let machine := prepared settings none image 0 (Vector.replicate 8 0)
    Accepted oneInstruction arguments settings image ∧
      (machine.idleCycle clock 0).completes = true ∧
      (machine.idleCycle clock 1).result.toOption = none ∧
      conduct oneInstruction arguments 0 clock (Vector.replicate 8 0)
          (fun made cycle => made ++ [cycle]) [] 3 =
        some ([machine.idleCycle clock 0, machine.idleCycle clock 1],
          ⟨1, (machine.idled clock 2).screen.text, none⟩) := by
  intro arguments settings image clock machine
  have parsed : (fileSettings oneInstruction arguments).toOption = some settings := by
    decide +kernel
  have named : fileSettings oneInstruction arguments = .ok settings := by
    cases found : fileSettings oneInstruction arguments with
    | error cause =>
      rw [found] at parsed
      cases parsed
    | ok other =>
      rw [found] at parsed
      exact congrArg Except.ok (Option.some.inj parsed)
  have accepted : Accepted oneInstruction arguments settings image :=
    ⟨rfl, named, rfl, by decide⟩
  have first : (machine.idleCycle clock 0).completes = true := by decide +kernel
  have second : (machine.idleCycle clock 1).result.toOption = none := by decide +kernel
  obtain ⟨runs, -⟩ :=
    conducts_promised_cycles oneInstruction arguments 0 clock (Vector.replicate 8 0)
  obtain ⟨-, ends⟩ := runs settings image accepted
  have completed : ∀ earlier < 1, (machine.idleCycle clock earlier).completes = true := by
    intro earlier before
    rwa [Nat.lt_one_iff.mp before]
  refine ⟨accepted, first, second, ?_⟩
  obtain ⟨fault, -, stops⟩ | ⟨waits, -⟩ :=
    ends 1 (.inr (by decide)) completed (by decide +kernel)
  · exact stops _ _ [] 3 (by decide)
  · rw [waits] at second
    cases second

end Cli

end Chip8
