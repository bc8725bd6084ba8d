import Chip8.Cli.Session

/-!
# What the command line answers

The exit status, the standard output and the one line of complaint. A request for
help or the version succeeds. Arguments that are not in order, and a session that
cannot begin, end with status 2 and no output. Otherwise the output is the final
screen, and the status tells whether the program faulted.
-/

namespace Chip8.Cli

/-- The name under which the program is called. -/
def programName : String := "chip8vm"

/-- The answer to a request for the version. -/
def versionText : String :=
  programName ++ " 0.1.0\n"

/-- The answer to a request for help. -/
def helpText : String :=
  "Run a CHIP-8 ROM without a window. No keys are ever pressed; " ++
  "the final screen is printed to stdout\n" ++
  "\n" ++
  "Usage: chip8vm [OPTIONS] <ROM>\n" ++
  "\n" ++
  "Arguments:\n" ++
  "  <ROM>  The ROM image to run\n" ++
  "\n" ++
  "Options:\n" ++
  "  -c, --config <CONFIG>        JSON file with interpreter settings\n" ++
  "  -s, --seed <SEED>            Seed for the random number generator\n" ++
  "      --hz <HZ>                Instructions executed per second [default: 500]\n" ++
  "  -t, --ticks <TICKS>          Stop after this many instructions. " ++
  "0 runs until the program halts [default: 0]\n" ++
  "      --log-level <LOG_LEVEL>  One of trace, debug, info, warning, error, critical " ++
  "[default: info]\n" ++
  "  -h, --help                   Print help\n" ++
  "  -V, --version                Print version\n"

/-- How the program ends. -/
structure Outcome where
  status : Nat
  output : String
  complaint : Option String
  deriving DecidableEq, Repr

namespace Outcome

/-- The arguments are not in order. -/
def misused : Outcome :=
  ⟨2, "", none⟩

/-- The session could not begin. -/
def refused (refusal : Refusal) : Outcome :=
  ⟨2, "", some (programName ++ ": " ++ refusal.message)⟩

/-- The session has ended. -/
def finished (report : Report) : Outcome :=
  let status :=
    match report.ending with
    | .faulted _ => 1
    | .limitReached | .waitingForKey | .halted => 0
  ⟨status, report.machine.screen.text, none⟩

end Outcome

/-- Conduct the session that the arguments ask for: `read` gives the content of a file,
`started` the time at which the machine is built and `clock` the readings of each cycle. Each
cycle that is made is noted. `none` when the fuel does not last. -/
def conduct {α : Type} (read : String → FileContent) (arguments : Arguments)
    (started : Instant) (clock : Nat → Readings) (entropy : Random.StreamKey)
    (note : α → Transition → α) (noted : α) (fuel : Nat) : Option (α × Outcome) :=
  match Session.start read arguments started entropy with
  | .error refusal => some (noted, .refused refusal)
  | .ok (session, _) =>
    (session.run clock note fuel noted).map fun (noted, report) => (noted, .finished report)

/-- Answer a command line: `clock` gives the readings of each cycle, given the pace that was
asked for. -/
def respond (read : String → FileContent) (started : Instant) (clock : Nat → Nat → Readings)
    (entropy : Random.StreamKey) (fuel : Nat) (arguments : List String) : Option Outcome :=
  match Request.ofArguments arguments with
  | none => some .misused
  | some .help => some ⟨0, helpText, none⟩
  | some .version => some ⟨0, versionText, none⟩
  | some (.run arguments) =>
    (conduct read arguments started (clock (Session.pacing arguments.hz)) entropy
      (fun _ _ => ()) () fuel).map (·.2)

end Chip8.Cli
