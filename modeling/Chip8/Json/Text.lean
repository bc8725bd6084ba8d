import Chip8.Json.Problem
import Chip8.Utf8

/-!
# Quoted text

A quoted text is taken byte by byte from behind its opening quote. Where its value
matters it is read exactly: an escaped surrogate needs its partner, and the bytes
must be UTF-8 in the end. A text that is only passed over may hold any escaped code
unit and any bytes.
-/

namespace Chip8.Json

/-- How closely a part of the text is looked at. -/
inductive Rigor where
  /-- Its value matters. -/
  | exact
  /-- It is passed over. -/
  | lax
  deriving DecidableEq, Repr

namespace Text

/-- What the next byte of a quoted text is part of. -/
inductive Place where
  /-- The text itself. -/
  | plain
  /-- An escape, behind its backslash. -/
  | escape
  /-- A four-digit escape: the digits so far, last first, and the leading surrogate
  before it, if there was one. -/
  | hex (digits : List UInt8) (leading : Option Nat)
  /-- Behind a leading surrogate. -/
  | partner (leading : Nat)
  /-- Behind a leading surrogate and a backslash. -/
  | partnerEscape (leading : Nat)
  deriving DecidableEq, Repr

/-- A quoted text in progress: its bytes so far, last first. -/
structure Scan where
  bytes : List UInt8
  place : Place
  deriving DecidableEq, Repr

/-- Nothing has been read yet. -/
def Scan.start : Scan :=
  ⟨[], .plain⟩

/-- The byte that a one-letter escape stands for. -/
def escaped (byte : UInt8) : Option UInt8 :=
  if byte = 0x22 ∨ byte = 0x5C ∨ byte = 0x2F then some byte
  else if byte = 0x62 then some 0x08
  else if byte = 0x66 then some 0x0C
  else if byte = 0x6E then some 0x0A
  else if byte = 0x72 then some 0x0D
  else if byte = 0x74 then some 0x09
  else none

/-- The value of a hexadecimal digit in either case. -/
def hexValue (byte : UInt8) : Option Nat :=
  if 0x30 ≤ byte ∧ byte ≤ 0x39 then some (byte.toNat - 0x30)
  else if 0x41 ≤ byte ∧ byte ≤ 0x46 then some (byte.toNat - 0x37)
  else if 0x61 ≤ byte ∧ byte ≤ 0x66 then some (byte.toNat - 0x57)
  else none

/-- The number that hexadecimal digits, last first, stand for. -/
def hexNumber : List UInt8 → Option Nat
  | [] => some 0
  | digit :: digits => do return (← hexNumber digits) * 16 + (← hexValue digit)

/-- Whether a code unit is a leading surrogate. -/
def isLeading (unit : Nat) : Bool :=
  0xD800 ≤ unit && unit < 0xDC00

/-- Whether a code unit is a trailing surrogate. -/
def isTrailing (unit : Nat) : Bool :=
  0xDC00 ≤ unit && unit < 0xE000

/-- The code point of a surrogate pair. -/
def pairValue (leading trailing : Nat) : Nat :=
  0x10000 + (leading - 0xD800) * 0x400 + (trailing - 0xDC00)

/-- Append a code point and return to the text itself. -/
def Scan.append (scan : Scan) (codePoint : Nat) : Scan :=
  ⟨(String.utf8EncodeChar (Char.ofNat codePoint)).reverse ++ scan.bytes, .plain⟩

/-- A complete four-digit escape. -/
def Scan.takeUnit (rigor : Rigor) (scan : Scan) (unit : Nat) (leading : Option Nat) :
    Except Problem Scan :=
  match rigor, leading with
  | .lax, _ => .ok { scan with place := .plain }
  | .exact, some first =>
    if isTrailing unit then .ok (scan.append (pairValue first unit)) else .error .malformed
  | .exact, none =>
    if isTrailing unit then .error .malformed
    else if isLeading unit then .ok { scan with place := .partner unit }
    else .ok (scan.append unit)

/-- Take one byte that does not close the text. -/
def Scan.step (rigor : Rigor) (scan : Scan) (byte : UInt8) : Except Problem Scan :=
  match scan.place with
  | .plain =>
    if byte = 0x5C then .ok { scan with place := .escape }
    else if byte < 0x20 then .error .malformed
    else .ok { scan with bytes := byte :: scan.bytes }
  | .escape =>
    if byte = 0x75 then .ok { scan with place := .hex [] none }
    else
      match escaped byte with
      | some meant => .ok ⟨meant :: scan.bytes, .plain⟩
      | none => .error .malformed
  | .hex digits leading =>
    if digits.length < 3 then .ok { scan with place := .hex (byte :: digits) leading }
    else
      match hexNumber (byte :: digits) with
      | some unit => scan.takeUnit rigor unit leading
      | none => .error .malformed
  | .partner leading =>
    if byte = 0x5C then .ok { scan with place := .partnerEscape leading } else .error .malformed
  | .partnerEscape leading =>
    if byte = 0x75 then .ok { scan with place := .hex [] (some leading) } else .error .malformed

/-- The value of a text at its closing quote. -/
def Scan.close (rigor : Rigor) (scan : Scan) : Except Problem (List UInt8) :=
  if rigor = .lax ∨ Utf8.isValid scan.bytes.reverse then .ok scan.bytes.reverse
  else .error .malformed

/-- Read on to the closing quote: the value and the bytes behind the quote. -/
def Scan.run (rigor : Rigor) (scan : Scan) :
    List UInt8 → Except Problem (List UInt8 × List UInt8)
  | [] => .error .truncated
  | byte :: rest =>
    if scan.place = .plain ∧ byte = 0x22 then
      match scan.close rigor with
      | .ok value => .ok (value, rest)
      | .error problem => .error problem
    else
      match scan.step rigor byte with
      | .ok scan => scan.run rigor rest
      | .error problem => .error problem

/-- Reading a text never adds bytes to what is left. -/
theorem Scan.run_length {rigor : Rigor} {scan : Scan} {bytes value rest : List UInt8}
    (read : scan.run rigor bytes = .ok (value, rest)) : rest.length ≤ bytes.length := by
  induction bytes generalizing scan with
  | nil => simp [Scan.run] at read
  | cons byte bytes induction =>
    unfold Scan.run at read
    split at read
    · split at read
      · simp_all
      · simp at read
    · split at read
      · exact Nat.le_succ_of_le (induction read)
      · simp at read

end Text

end Chip8.Json
