import Chip8.Json.Text

/-!
# Numerals

The decimal numerals of JSON: a sign, whole digits without superfluous zeros, a
fraction and an exponent. Only numerals without fraction and exponent that fit in
64 bits have an exact value here; all others are merely known to be numbers.

A numeral whose value matters must not exceed the largest double. Its significand
is made of the leading digits that fit in 64 bits. Further whole digits only raise
the exponent, and further fraction digits count for nothing.
-/

namespace Chip8.Json

/-- The parts of a numeral; digits are kept as bytes. -/
structure Numeral where
  negative : Bool
  whole : List UInt8
  fraction : List UInt8
  exponentNegative : Bool
  exponent : List UInt8
  deriving DecidableEq, Repr

/-- The value of a numeral as far as it matters. -/
inductive Number where
  /-- A natural number below 2⁶⁴. -/
  | natural (value : Nat)
  /-- Any other number. -/
  | other
  deriving DecidableEq, Repr

namespace Numeral

/-- Where a required digit is missing. -/
inductive Gap where
  /-- At the end of the text. -/
  | atEnd
  /-- Before some other byte, or behind a superfluous zero. -/
  | inside
  deriving DecidableEq, Repr

/-- A gap as a problem. Only an exact reader tells the end of the text apart. -/
def Gap.problem : Rigor → Gap → Problem
  | .exact, atEnd => .truncated
  | _, _ => .malformed

/-- Whether a byte is a decimal digit. -/
def isDigit (byte : UInt8) : Bool :=
  0x30 ≤ byte && byte ≤ 0x39

/-- The value of a digit. -/
def digitValue (byte : UInt8) : Nat :=
  byte.toNat - 0x30

/-- The longest run of digits and what follows it. At least one digit is required. -/
def digits (bytes : List UInt8) : Except Gap (List UInt8 × List UInt8) :=
  match bytes.takeWhile isDigit, bytes.dropWhile isDigit with
  | [], [] => .error .atEnd
  | [], _ => .error .inside
  | run, rest => .ok (run, rest)

/-- The whole digits: a zero stands alone. -/
def wholeDigits (bytes : List UInt8) : Except Gap (List UInt8 × List UInt8) :=
  match digits bytes with
  | .error gap => .error gap
  | .ok (run, rest) =>
    if run.head? = some 0x30 ∧ run.length ≠ 1 then .error .inside else .ok (run, rest)

/-- The digits behind a point, none without one. -/
def fractionDigits (bytes : List UInt8) : Except Gap (List UInt8 × List UInt8) :=
  if bytes.head? = some 0x2E then digits bytes.tail else .ok ([], bytes)

/-- Take an optional sign: whether it was a minus, and what follows. -/
def exponentSign (bytes : List UInt8) : Bool × List UInt8 :=
  if bytes.head? = some 0x2D then (true, bytes.tail)
  else if bytes.head? = some 0x2B then (false, bytes.tail)
  else (false, bytes)

/-- The sign and digits behind an exponent mark, none without one. -/
def exponentDigits (bytes : List UInt8) : Except Gap ((Bool × List UInt8) × List UInt8) :=
  if bytes.head? = some 0x65 ∨ bytes.head? = some 0x45 then
    let signed := exponentSign bytes.tail
    match digits signed.2 with
    | .error gap => .error gap
    | .ok (run, rest) => .ok ((signed.1, run), rest)
  else .ok ((false, []), bytes)

/-- Take a numeral without its sign. -/
def scanUnsigned (negative : Bool) (bytes : List UInt8) :
    Except Gap (Numeral × List UInt8) := do
  let (whole, bytes) ← wholeDigits bytes
  let (fraction, bytes) ← fractionDigits bytes
  let ((exponentNegative, exponent), bytes) ← exponentDigits bytes
  return (⟨negative, whole, fraction, exponentNegative, exponent⟩, bytes)

/-- Take a numeral and what follows it. -/
def scan (bytes : List UInt8) : Except Gap (Numeral × List UInt8) :=
  if bytes.head? = some 0x2D then scanUnsigned true bytes.tail else scanUnsigned false bytes

/-- A run of digits is not empty. -/
theorem digits_length {bytes run rest : List UInt8} (read : digits bytes = .ok (run, rest)) :
    rest.length < bytes.length := by
  have whole := congrArg List.length (List.takeWhile_append_dropWhile (p := isDigit) (l := bytes))
  rw [List.length_append] at whole
  unfold digits at read
  split at read
  · simp at read
  · simp at read
  · have nonempty : 0 < (bytes.takeWhile isDigit).length := by
      cases taken : bytes.takeWhile isDigit with
      | nil => simp_all
      | cons => simp
    simp_all only [Except.ok.injEq, Prod.mk.injEq]
    omega

/-- The whole digits are not empty. -/
theorem wholeDigits_length {bytes run rest : List UInt8}
    (read : wholeDigits bytes = .ok (run, rest)) : rest.length < bytes.length := by
  unfold wholeDigits at read
  split at read
  · simp at read
  · next found =>
    split at read
    · simp at read
    · simp only [Except.ok.injEq, Prod.mk.injEq] at read
      exact read.2 ▸ digits_length found

/-- Fraction digits leave no more bytes than there were. -/
theorem fractionDigits_length {bytes run rest : List UInt8}
    (read : fractionDigits bytes = .ok (run, rest)) : rest.length ≤ bytes.length := by
  unfold fractionDigits at read
  split at read
  · have := digits_length read
    simp only [List.length_tail] at this
    omega
  · simp_all

/-- A sign leaves no more bytes than there were. -/
theorem exponentSign_length (bytes : List UInt8) :
    (exponentSign bytes).2.length ≤ bytes.length := by
  unfold exponentSign
  split
  · simp
  · split <;> simp

/-- Exponent digits leave no more bytes than there were. -/
theorem exponentDigits_length {bytes rest : List UInt8} {exponent : Bool × List UInt8}
    (read : exponentDigits bytes = .ok (exponent, rest)) : rest.length ≤ bytes.length := by
  unfold exponentDigits at read
  split at read
  · dsimp only at read
    split at read
    · simp at read
    · next found =>
      simp only [Except.ok.injEq, Prod.mk.injEq] at read
      have signed := exponentSign_length bytes.tail
      have shorter := digits_length found
      simp only [List.length_tail] at signed
      have := read.2
      subst this
      omega
  · simp_all

/-- A numeral without its sign is not empty. -/
theorem scanUnsigned_length {negative : Bool} {bytes rest : List UInt8} {numeral : Numeral}
    (read : scanUnsigned negative bytes = .ok (numeral, rest)) : rest.length < bytes.length := by
  unfold scanUnsigned at read
  cases whole : wholeDigits bytes with
  | error => simp [whole, bind, Except.bind] at read
  | ok wholeRead =>
    cases fraction : fractionDigits wholeRead.2 with
    | error => simp [whole, fraction, bind, Except.bind] at read
    | ok fractionRead =>
      cases exponent : exponentDigits fractionRead.2 with
      | error => simp [whole, fraction, exponent, bind, Except.bind] at read
      | ok exponentRead =>
        simp [whole, fraction, exponent, bind, Except.bind, pure, Except.pure] at read
        have := wholeDigits_length whole
        have := fractionDigits_length fraction
        have := exponentDigits_length exponent
        rw [← read.2]
        omega

/-- A numeral is not empty. -/
theorem scan_length {bytes rest : List UInt8} {numeral : Numeral}
    (read : scan bytes = .ok (numeral, rest)) : rest.length < bytes.length := by
  unfold scan at read
  split at read
  · have := scanUnsigned_length read
    simp only [List.length_tail] at this
    omega
  · exact scanUnsigned_length read

/-- The digits taken from the front of a numeral into a significand as long as it
stays below 2⁶⁴, and the digits left over. -/
def significand (value : Nat) : List UInt8 → Nat × List UInt8
  | [] => (value, [])
  | digit :: rest =>
    let extended := value * 10 + digitValue digit
    if extended < 0x10000000000000000 then significand extended rest else (value, digit :: rest)

/-- The number that digits stand for, as long as it stays below 2³¹. -/
def smallNumber (value : Nat) : List UInt8 → Option Nat
  | [] => some value
  | digit :: rest =>
    let extended := value * 10 + digitValue digit
    if extended < 0x80000000 then smallNumber extended rest else none

/-- Round a number to 53 significant bits, to the even neighbour from halfway. -/
def roundToDouble (n : Nat) : Nat :=
  let spare := n.log2 + 1 - 53
  let unit := 1 <<< spare
  let quotient := n / unit
  let remainder := n % unit
  let up := unit < 2 * remainder || (unit == 2 * remainder && quotient % 2 == 1)
  (if up then quotient + 1 else quotient) * unit

/-- From here on a number is rounded past the largest double, 2¹⁰²⁴ − 2⁹⁷¹. -/
def doubleLimit : Nat :=
  1 <<< 1024 - 1 <<< 970

/-- Whether a significand with a decimal exponent exceeds the largest double. Both
the significand and the power of ten are rounded before they are multiplied. -/
def exceedsDouble (value : Nat) (exponent : Int) : Bool :=
  if value = 0 ∨ exponent < 0 then false
  else if 308 < exponent then true
  else doubleLimit ≤ roundToDouble value * roundToDouble (Nat.pow 10 exponent.toNat)

/-- Whether a numeral exceeds the largest double. -/
def tooLarge (numeral : Numeral) : Bool :=
  let (value, surplus) := significand 0 numeral.whole
  let (value', ignored) := significand value numeral.fraction
  let base : Int := surplus.length - (numeral.fraction.length - ignored.length)
  match smallNumber 0 numeral.exponent with
  | none => value' ≠ 0 && !numeral.exponentNegative
  | some power =>
    exceedsDouble value' (if numeral.exponentNegative then base - power else base + power)

/-- The value of a numeral whose value matters. -/
def value (numeral : Numeral) : Except Problem Number :=
  if numeral.tooLarge then .error .malformed
  else if numeral.negative ∨ numeral.fraction ≠ [] ∨ numeral.exponent ≠ [] then .ok .other
  else
    match significand 0 numeral.whole with
    | (value, []) => .ok (.natural value)
    | _ => .ok .other

end Numeral

end Chip8.Json
