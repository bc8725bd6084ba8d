import Chip8.Decimal
import Chip8.Instruction.Mnemonic
import Chip8.Keypad

/-!
# Log events

What a machine reports about its own work, in the order in which it happens. An
event is data; its severity, message and named fields are its written form.
-/

namespace Chip8

/-- How much an event matters, from least to most. -/
inductive Severity where
  | trace
  | debug
  | info
  | warning
  | error
  | critical
  deriving DecidableEq, Repr

namespace Severity

/-- The severity of a lower-case name. -/
def ofName : String → Option Severity
  | "trace" => some trace
  | "debug" => some debug
  | "info" => some info
  | "warning" => some warning
  | "error" => some error
  | "critical" => some critical
  | _ => none

/-- The place of a severity in ascending order. -/
def rank : Severity → Nat
  | trace => 0
  | debug => 1
  | info => 2
  | warning => 3
  | error => 4
  | critical => 5

/-- The upper-case label of a severity. -/
def label : Severity → String
  | trace => "TRACE"
  | debug => "DEBUG"
  | info => "INFO"
  | warning => "WARNING"
  | error => "ERROR"
  | critical => "CRITICAL"

end Severity

/-- Something a machine did. -/
inductive Event where
  /-- A program of this many bytes was loaded. -/
  | loaded (bytes : Nat)
  /-- The opcode at an address was decoded and executed. -/
  | executed (pc opcode : UInt16) (instruction : Instruction)
  /-- An instruction began to wait for a key. -/
  | waitingForKey (register : Register)
  /-- A waiting instruction received its key. -/
  | keyPressed (key : Key) (register : Register)
  /-- The opcode at an address raised a fault. -/
  | halting (fault : Fault) (pc opcode : UInt16)
  /-- The machine was stopped from outside at an address. -/
  | paused (pc : UInt16)
  deriving DecidableEq, Repr

namespace Event

/-- An address, in at least three digits. -/
def addressText (address : UInt16) : String :=
  Hex.numeral 3 address.toNat

/-- An opcode, in four digits. -/
def opcodeText (opcode : UInt16) : String :=
  Hex.numeral 4 opcode.toNat

/-- How much an event matters. -/
def severity : Event → Severity
  | loaded _ | paused _ => .info
  | executed .. | waitingForKey _ | keyPressed .. => .debug
  | halting .. => .error

/-- What happened. -/
def message : Event → String
  | loaded _ => "loaded ROM"
  | executed .. => "executed"
  | waitingForKey _ => "waiting for key"
  | keyPressed .. => "key pressed"
  | halting .. => "halting"
  | paused _ => "paused"

/-- The details of an event, each under its name. -/
def fields : Event → List (String × String)
  | loaded bytes => [("bytes", Decimal.numeral bytes)]
  | executed pc opcode instruction =>
    [("pc", addressText pc), ("opcode", opcodeText opcode), ("op", instruction.text)]
  | waitingForKey register => [("register", Decimal.numeral register.val)]
  | keyPressed key register =>
    [("key", Decimal.numeral key.val), ("register", Decimal.numeral register.val)]
  | halting fault pc opcode =>
    [("error", fault.message), ("pc", addressText pc), ("opcode", opcodeText opcode)]
  | paused pc => [("pc", addressText pc)]

end Event

end Chip8
