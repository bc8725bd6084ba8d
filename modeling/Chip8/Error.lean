import Chip8.Event
import Chip8.Json.Problem

/-!
# Errors

Everything that can go wrong when a program or its settings are loaded and when
the program runs.
-/

namespace Chip8

/-- Why a file could not be read. -/
inductive FileError where
  | notFound
  | isDirectory
  | other (reason : String)
  deriving DecidableEq, Repr

/-- The text of a file error. -/
def FileError.message : FileError → String
  | notFound => "No such file or directory (os error 2)"
  | isDirectory => "Is a directory (os error 21)"
  | other reason => reason

/-- The outcome of asking for a file's content. -/
abbrev FileContent := Except FileError (List UInt8)

/-- An error of any kind. -/
inductive Error where
  /-- A running program raised a fault. -/
  | fault (cause : Fault)
  /-- A program of this many bytes does not fit into memory. -/
  | programTooLarge (size limit : Nat)
  /-- A file could not be read. -/
  | unreadable (cause : FileError)
  /-- A settings file could be opened but not read. -/
  | unreadableSettings
  /-- A settings text was refused. -/
  | invalidSettings (problem : Json.Problem)
  deriving DecidableEq, Repr

namespace Error

/-- The text of an error. -/
def message : Error → String
  | fault cause => cause.message
  | programTooLarge size limit =>
    "ROM is too large (" ++ Decimal.numeral size ++ " bytes), max size is "
      ++ Decimal.numeral limit ++ " bytes"
  | unreadable cause => "unable to read file: " ++ cause.message
  | unreadableSettings | invalidSettings _ => "invalid config"

/-- Whether the error halts a running machine. -/
def isFault : Error → Bool
  | fault _ => true
  | _ => false

/-- Whether the error is a value that is no key. -/
def isInvalidKey : Error → Bool
  | fault cause => cause.isInvalidKey
  | _ => false

end Error

end Chip8
