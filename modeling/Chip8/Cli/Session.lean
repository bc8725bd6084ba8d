import Chip8.Cli.Arguments
import Chip8.Cli.Quoted
import Chip8.Machine.Cycle
import Chip8.Settings.Reader

/-!
# Running a program to its end

A session executes a program with no key held until a number of instructions is
reached, the program waits for a key or a fault halts it. The timers follow real
time at 60 beats per second whatever the settings say. What a session has to say about
its end is data, like the events of its machine.
-/

namespace Chip8.Cli

/-- Why a session could not begin. -/
inductive Refusal where
  /-- The log level has no meaning. -/
  | unknownLevel (name : String)
  /-- The settings or the program could not be loaded. -/
  | unloadable (cause : Error)
  deriving DecidableEq, Repr

/-- The text of a refusal. -/
def Refusal.message : Refusal → String
  | unknownLevel name => "Invalid (cause; Undefined severity: " ++ Quoted.quote name ++ ")"
  | unloadable cause => cause.message

/-- A running program: its machine, the number of instructions to stop after (zero for
no limit) and the number executed so far. -/
structure Session where
  machine : Machine
  limit : Nat
  executed : Nat
  deriving DecidableEq, Repr

/-- Why a session ended. -/
inductive Ending where
  | limitReached
  | waitingForKey
  | halted
  | faulted (fault : Fault)
  deriving DecidableEq, Repr

/-- A session that has ended. -/
structure Report where
  machine : Machine
  executed : Nat
  ending : Ending
  deriving DecidableEq, Repr

/-- Something the command line itself logs. -/
inductive Notice where
  /-- The program waits for a key, and no key will come. -/
  | neverPressed
  /-- The program raised a fault after so many instructions. -/
  | faulted (fault : Fault) (executed : Nat)
  /-- The session ended after so many instructions, at an address. -/
  | stopped (executed : Nat) (pc : UInt16)
  deriving DecidableEq, Repr

namespace Notice

/-- How much a notice matters. -/
def severity : Notice → Severity
  | neverPressed => .warning
  | faulted .. => .error
  | stopped .. => .info

/-- What happened. -/
def message : Notice → String
  | neverPressed => "program is waiting for a key, nothing will ever be pressed"
  | faulted .. => "program faulted"
  | stopped .. => "stopped"

/-- The details of a notice, each under its name. -/
def fields : Notice → List (String × String)
  | neverPressed => []
  | faulted fault executed =>
    [("error", fault.message), ("executed", Decimal.numeral executed)]
  | stopped executed pc =>
    [("executed", Decimal.numeral executed), ("pc", Event.addressText pc)]

end Notice

/-- What is logged when a session ends, in order. -/
def Report.notices (report : Report) : List Notice :=
  let cause :=
    match report.ending with
    | .waitingForKey => [Notice.neverPressed]
    | .faulted fault => [.faulted fault report.executed]
    | .limitReached | .halted => []
  cause ++ [.stopped report.executed report.machine.pc]

/-- A session after one turn. -/
inductive Turn where
  | running (session : Session)
  | stopped (report : Report)
  deriving DecidableEq, Repr

namespace Session

/-- The settings of a session: those of the file, if one is named, under the seed of
the command line and with clocked timers. -/
def settingsOf (read : String → FileContent) (arguments : Arguments) : Except Error Settings := do
  let settings ←
    match arguments.settings with
    | none => .ok {}
    | some path => Settings.ofFile (read path)
  return { settings with
    seed := arguments.seed.or settings.seed
    timers := .clocked 60 }

/-- Begin a session: the log level is judged first, then the settings are read, then
the program. -/
def start (read : String → FileContent) (arguments : Arguments) (now : Instant)
    (entropy : Random.StreamKey) : Except Refusal (Session × Severity × Event) :=
  match Severity.ofName arguments.logLevel with
  | none => .error (.unknownLevel arguments.logLevel)
  | some severity =>
    match settingsOf read arguments with
    | .error cause => .error (.unloadable cause)
    | .ok settings =>
      match (Machine.boot settings now entropy).loadFile (read arguments.program) with
      | (_, .error cause) => .error (.unloadable cause)
      | (machine, .ok event) => .ok (⟨machine, arguments.ticks.toNat, 0⟩, severity, event)

/-- Whether the limit is reached. -/
def isOver (session : Session) : Bool :=
  session.limit ≠ 0 && session.limit ≤ session.executed

/-- One turn: stop at the limit, otherwise execute a cycle. The cycle is returned as well,
if one was made. -/
def step (session : Session) (now : Readings) : Turn × Option Transition :=
  if session.isOver then (.stopped ⟨session.machine, session.executed, .limitReached⟩, none)
  else
    let transition := session.machine.cycle .idle now
    let stopped (ending : Ending) := Turn.stopped ⟨transition.machine, session.executed, ending⟩
    let turn :=
      match transition.result with
      | .ok (.executed _) =>
        .running { session with machine := transition.machine, executed := session.executed + 1 }
      | .ok .waitingForKey => stopped .waitingForKey
      | .ok .halted => stopped .halted
      | .error fault => stopped (.faulted fault)
    (turn, some transition)

/-- Take turns until the session ends; `none` when the fuel does not last. Cycle `k`
reads the clock as `clock k`. Each cycle that is made is noted. -/
def run {α : Type} (clock : Nat → Readings) (note : α → Transition → α) :
    Nat → α → Session → Option (α × Report)
  | 0, _, _ => none
  | fuel + 1, noted, session =>
    let (turn, cycle) := session.step (clock session.executed)
    let noted := cycle.elim noted (note noted)
    match turn with
    | .stopped report => some (noted, report)
    | .running session => run clock note fuel noted session

/-- The nanoseconds that a cycle should last at a rate in cycles per second. -/
def pacing (hz : UInt32) : Nat :=
  1000000000 / max hz.toNat 1

/-- What is left of the time a cycle should last, unless it took longer. -/
def rest (pacing passed : Nat) : Option Nat :=
  if passed ≤ pacing then some (pacing - passed) else none

end Session

end Chip8.Cli
