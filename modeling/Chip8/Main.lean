import Chip8.Cli.Outcome

/-!
# The program

Reads the files named on the command line, runs the session in real time and prints
the final screen. Events and notices at or above the chosen severity go to the error
stream.
-/

namespace Chip8.Cli

/-- Read a whole file. -/
def readContent (path : String) : IO FileContent := do
  try
    return .ok (← IO.FS.readBinFile path).toList
  catch cause =>
    match cause with
    | .noFileOrDirectory .. => return .error .notFound
    | .inappropriateType .. => return .error .isDirectory
    | other => return .error (.other (toString other))

/-- Read the files that the arguments name. -/
def readFiles (arguments : Arguments) : IO (String → FileContent) := do
  let paths := arguments.settings.toList ++ [arguments.program]
  let contents ← paths.mapM readContent
  let files := paths.zip contents
  return fun path => (files.lookup path).getD (.error .notFound)

/-- Key words from the system's source of randomness. -/
def readEntropy : IO Random.StreamKey := do
  let bytes ← IO.getRandomBytes 32
  return Vector.ofFn fun word =>
    (List.range 4).foldl
      (fun value place => value <<< 8 ||| (bytes.toList.getD (4 * word.val + place) 0).toUInt32) 0

/-- Write what happened with its details, if it matters enough. -/
def log (threshold severity : Severity) (message : String) (fields : List (String × String)) :
    IO Unit :=
  if threshold.rank ≤ severity.rank then
    let details := fields.map fun (name, value) => name ++ ": " ++ value
    IO.eprintln (", ".intercalate ((severity.label ++ " " ++ message) :: details))
  else return ()

/-- Log the events of a machine, each with the program it runs. -/
def logEvents (threshold : Severity) (program : String) (events : List Event) : IO Unit :=
  for event in events do
    log threshold event.severity event.message (event.fields ++ [("rom", program)])

/-- Log the notices at the end of a session. -/
def logNotices (threshold : Severity) (notices : List Notice) : IO Unit :=
  for notice in notices do
    log threshold notice.severity notice.message notice.fields

/-- Read the clock for one cycle. -/
def readClock : IO Readings := do
  let resumed ← IO.monoNanosNow
  let counted ← IO.monoNanosNow
  return { resumed, counted }

/-- Let some nanoseconds pass: whole milliseconds asleep, and what is left of them awake. -/
def pass (nanoseconds : Nat) : IO Unit := do
  let due := (← IO.monoNanosNow) + nanoseconds
  IO.sleep (UInt32.ofNat (nanoseconds / 1000000))
  while (← IO.monoNanosNow) < due do
    pure ()

/-- Take turns until the session ends. Each turn lasts as long as a cycle should, unless its
work took longer. -/
partial def play (threshold : Severity) (program : String) (pacing : Nat) (session : Session) :
    IO Report := do
  let started ← IO.monoNanosNow
  let (turn, cycle) := session.step (← readClock)
  logEvents threshold program ((cycle.map (·.events)).getD [])
  match turn with
  | .stopped report => return report
  | .running session =>
    let passed := (← IO.monoNanosNow) - started
    if let some rest := Session.rest pacing passed then
      pass rest
    play threshold program pacing session

/-- Answer a command line in real time. -/
def perform (arguments : Arguments) : IO Outcome := do
  let files ← readFiles arguments
  let started ← IO.monoNanosNow
  match Session.start files arguments started (← readEntropy) with
  | .error refusal => return .refused refusal
  | .ok (session, threshold, event) =>
    logEvents threshold arguments.program [event]
    let report ← play threshold arguments.program (Session.pacing arguments.hz) session
    logNotices threshold report.notices
    return .finished report

end Chip8.Cli

open Chip8.Cli in
/-- Run the command line. -/
def main (arguments : List String) : IO UInt32 := do
  let outcome ←
    match Request.ofArguments arguments with
    | none =>
      IO.eprintln "Usage: chip8vm [OPTIONS] <ROM>\n\nFor more information, try '--help'."
      pure Outcome.misused
    | some .help => pure ⟨0, helpText, none⟩
    | some .version => pure ⟨0, versionText, none⟩
    | some (.run arguments) => perform arguments
  IO.print outcome.output
  if let some line := outcome.complaint then
    IO.eprintln line
  return UInt32.ofNat outcome.status
