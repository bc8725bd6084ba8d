/-!
# Command-line arguments

Arguments are read from left to right. The value of an option is attached to it, with
or without an equals sign behind a letter, or is the next argument; a word that
begins with a dash is never such a value, a lone dash is. Behind `--` every word is
positional. A request for help or for the version is answered where it stands, if
everything before it is in order. Each option may be given once.
-/

namespace Chip8.Cli

/-- What to run and how. -/
structure Arguments where
  program : String
  settings : Option String := none
  seed : Option UInt64 := none
  hz : UInt32 := 500
  /-- The number of instructions to run; zero for no limit. -/
  ticks : UInt64 := 0
  logLevel : String := "info"
  deriving DecidableEq, Repr

/-- What the command line asks for. -/
inductive Request where
  | help
  | version
  | run (arguments : Arguments)
  deriving DecidableEq, Repr

/-- The options that take a value. -/
inductive Setting where
  | settings
  | seed
  | hz
  | ticks
  | logLevel
  deriving DecidableEq, Repr

/-- Everything that begins with a dash. -/
inductive Switch where
  | takes (setting : Setting)
  | help
  | version
  deriving DecidableEq, Repr

/-- The switch of a long name. -/
def Switch.ofName : String → Option Switch
  | "config" => some (.takes .settings)
  | "seed" => some (.takes .seed)
  | "hz" => some (.takes .hz)
  | "ticks" => some (.takes .ticks)
  | "log-level" => some (.takes .logLevel)
  | "help" => some .help
  | "version" => some .version
  | _ => none

/-- The switch of a letter. -/
def Switch.ofLetter : Char → Option Switch
  | 'c' => some (.takes .settings)
  | 's' => some (.takes .seed)
  | 't' => some (.takes .ticks)
  | 'h' => some .help
  | 'V' => some .version
  | _ => none

/-- A decimal number up to a limit; at least one digit and nothing but digits. -/
def digitsUpTo (limit : Nat) (digits : List Char) : Option Nat :=
  if digits ≠ [] ∧ digits.all Char.isDigit then
    let value := digits.foldl (fun value digit => value * 10 + (digit.toNat - 48)) 0
    if value ≤ limit then some value else none
  else none

/-- A decimal number up to a limit, with an optional plus sign. -/
def numberUpTo (limit : Nat) (text : String) : Option Nat :=
  match text.toList with
  | '+' :: digits => digitsUpTo limit digits
  | digits => digitsUpTo limit digits

/-- A decimal number up to a limit, with an optional sign; below zero there is none,
but zero itself may carry a minus sign. -/
def signedUpTo (limit : Nat) (text : String) : Option Nat :=
  match text.toList with
  | '-' :: digits => digitsUpTo 0 digits
  | _ => numberUpTo limit text

/-- What has been given so far. -/
structure Given where
  program : Option String := none
  settings : Option String := none
  seed : Option UInt64 := none
  hz : Option UInt32 := none
  ticks : Option UInt64 := none
  logLevel : Option String := none
  deriving DecidableEq, Repr

namespace Given

/-- Fill a place that must be empty. -/
def fill {α : Type} (place : Option α) (value : Option α) : Option (Option α) :=
  match place, value with
  | none, some value => some (some value)
  | _, _ => none

/-- A path; it must not be empty. -/
def path (text : String) : Option String :=
  if text = "" then none else some text

/-- Take the one positional argument. -/
def takeProgram (given : Given) (text : String) : Option Given := do
  return { given with program := ← fill given.program (path text) }

/-- Take the value of an option. -/
def take (given : Given) (setting : Setting) (text : String) : Option Given := do
  match setting with
  | .settings => return { given with settings := ← fill given.settings (path text) }
  | .seed =>
    let value := (numberUpTo 0xFFFFFFFFFFFFFFFF text).map UInt64.ofNat
    return { given with seed := ← fill given.seed value }
  | .hz =>
    let value := (signedUpTo 0xFFFFFFFF text).map UInt32.ofNat
    return { given with hz := ← fill given.hz value }
  | .ticks =>
    let value := (numberUpTo 0xFFFFFFFFFFFFFFFF text).map UInt64.ofNat
    return { given with ticks := ← fill given.ticks value }
  | .logLevel => return { given with logLevel := ← fill given.logLevel (some text) }

/-- The complete arguments; the program is required. -/
def complete (given : Given) : Option Request :=
  given.program.map fun program =>
    .run
      { program := program
        settings := given.settings
        seed := given.seed
        hz := given.hz.getD 500
        ticks := given.ticks.getD 0
        logLevel := given.logLevel.getD "info" }

/-- Words behind `--` are positional. -/
def takeAll (given : Given) (words : List String) : Option Given :=
  words.foldlM takeProgram given

end Given

/-- What an argument is, seen by itself. -/
inductive Word where
  /-- `--`: all that follows is positional. -/
  | dashes
  | help
  | version
  /-- An option, and its value if that is attached. -/
  | option (setting : Setting) (attached : Option String)
  | positional (text : String)
  /-- Something that begins with a dash and means nothing. -/
  | unknown
  deriving DecidableEq, Repr

namespace Word

/-- A name behind two dashes, with the value behind its first equals sign. Requests
take no value. -/
def ofLong (body : List Char) : Word :=
  let attached :=
    match body.dropWhile (· ≠ '=') with
    | [] => none
    | _ :: value => some (String.ofList value)
  match Switch.ofName (String.ofList (body.takeWhile (· ≠ '='))), attached with
  | some (.takes setting), attached => .option setting attached
  | some .help, none => .help
  | some .version, none => .version
  | _, _ => .unknown

/-- A letter behind a dash, with the value attached to it; one equals sign in front of
the value is dropped. A request is answered whatever letters follow it. -/
def ofShort (letter : Char) (rest : List Char) : Word :=
  let attached :=
    match rest with
    | [] => none
    | '=' :: value => some (String.ofList value)
    | value => some (String.ofList value)
  match Switch.ofLetter letter with
  | some (.takes setting) => .option setting attached
  | some .help => .help
  | some .version => .version
  | none => .unknown

/-- What an argument is. -/
def of (text : String) : Word :=
  match text.toList with
  | ['-', '-'] => .dashes
  | '-' :: '-' :: body => ofLong body
  | '-' :: letter :: rest => ofShort letter rest
  | _ => .positional text

end Word

/-- Read the arguments after what has been given so far; `none` when they are not in
order. -/
def Given.read (given : Given) : List String → Option Request
  | [] => given.complete
  | text :: rest =>
    match Word.of text with
    | .dashes => (given.takeAll rest).bind Given.complete
    | .help => some .help
    | .version => some .version
    | .unknown => none
    | .positional text => (given.takeProgram text).bind fun given => given.read rest
    | .option setting (some value) => (given.take setting value).bind fun given => given.read rest
    | .option setting none =>
      match rest with
      | [] => none
      | next :: rest =>
        match Word.of next with
        | .positional value => (given.take setting value).bind fun given => given.read rest
        | _ => none

/-- What a command line asks for; `none` when it is not in order. -/
def Request.ofArguments (arguments : List String) : Option Request :=
  Given.read {} arguments

end Chip8.Cli
