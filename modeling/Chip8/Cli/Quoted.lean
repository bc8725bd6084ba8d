import Chip8.Text.Combining
import Chip8.Text.Unprintable

/-!
# Quoted words in messages

A word given on the command line is quoted in a message so that nothing in it can be
mistaken: quotes and backslashes are escaped, and so is every character that has no
shape of its own or would join the one before it.
-/

namespace Chip8.Cli.Quoted

/-- Whether a character is not seen by itself. -/
def isHidden (c : Char) : Bool :=
  Text.isCombining c || Text.isUnprintable c

/-- A character by its number, in lower-case hexadecimal between braces. -/
def numbered (c : Char) : List Char :=
  "\\u\x7b".toList ++ Nat.toDigits 16 c.toNat ++ ['\x7d']

/-- A character inside quotes. -/
def escape (c : Char) : List Char :=
  if c = '"' ∨ c = '\\' then ['\\', c]
  else if c = '\n' then ['\\', 'n']
  else if c = '\r' then ['\\', 'r']
  else if c = '\t' then ['\\', 't']
  else if c.toNat = 0 then ['\\', '0']
  else if isHidden c then numbered c
  else [c]

/-- A word between quotes. -/
def quote (word : String) : String :=
  "\"" ++ String.ofList (word.toList.flatMap escape) ++ "\""

end Chip8.Cli.Quoted
