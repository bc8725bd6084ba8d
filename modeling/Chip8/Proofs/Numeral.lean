import Mathlib.Algebra.Group.Nat.Defs
import Chip8.Json.Numeral
import Chip8.Decimal

/-!
# Reading numerals back

A number is printed digit by digit from the left, and its numeral is read in the same
direction. Printing never writes a superfluous zero, so every numeral is well-formed; below
2⁶⁴ its digits fit into one significand, which is the number itself.
-/

namespace Chip8

/-- A text is encoded character by character. -/
theorem Utf8.encode_append (first second : String) :
    encode (first ++ second) = encode first ++ encode second := by
  simp [encode, String.toList_append]

namespace Decimal

open Json Numeral

/-- The byte of a digit. -/
def digitByte (digit : Nat) : UInt8 :=
  UInt8.ofNat (0x30 + digit)

/-- The byte of a decimal digit is recognised as a digit. -/
theorem digitByte_isDigit : ∀ digit < 10, isDigit (digitByte digit) = true := by
  decide

/-- The byte of a decimal digit has its value. -/
theorem digitByte_value : ∀ digit < 10, digitValue (digitByte digit) = digit := by
  decide

/-- The induction that a numeral is printed by: it has one digit, or it is the numeral of the
tens with one digit behind it. -/
theorem numeral_induction {motive : Nat → List UInt8 → Prop}
    (single : ∀ digit < 10, motive digit [digitByte digit])
    (longer : ∀ tens digit bytes, 0 < tens → digit < 10 → motive tens bytes →
      motive (10 * tens + digit) (bytes ++ [digitByte digit]))
    (n : Nat) : motive n (Utf8.encode (numeral n)) := by
  have printed : ∀ digit < 10,
      Utf8.encode (String.ofList [Nat.digitChar digit]) = [digitByte digit] := by
    decide
  induction n using Nat.strongRecOn with
  | ind n inductionHypothesis =>
    by_cases small : n < 10
    · rw [numeral, Nat.toDigits_of_lt_base small, printed n small]
      exact single n small
    · have split : numeral n = numeral (n / 10) ++ String.ofList [Nat.digitChar (n % 10)] := by
        rw [numeral, Nat.toDigits_of_base_le (by decide) (Nat.le_of_not_lt small),
          String.ofList_append]
        rfl
      have last : n % 10 < 10 := Nat.mod_lt n (by decide)
      have shorter := longer (n / 10) (n % 10) _ (by omega) last
        (inductionHypothesis (n / 10) (by omega))
      rw [Nat.div_add_mod] at shorter
      rw [split, Utf8.encode_append, printed _ last]
      exact shorter

/-- A numeral consists of digits. -/
theorem numeral_isDigit (n : Nat) : ∀ byte ∈ Utf8.encode (numeral n), isDigit byte = true := by
  refine numeral_induction (motive := fun _ bytes => ∀ byte ∈ bytes, isDigit byte = true)
    ?single ?longer n
  case single =>
    intro digit small byte member
    rw [List.mem_singleton.mp member]
    exact digitByte_isDigit digit small
  case longer =>
    intro tens digit bytes _ small earlier byte member
    rcases List.mem_append.mp member with old | last
    · exact earlier byte old
    · rw [List.mem_singleton.mp last]
      exact digitByte_isDigit digit small

/-- A numeral begins with a zero only if it is a single zero. -/
theorem numeral_first (n : Nat) :
    ∃ first rest, Utf8.encode (numeral n) = first :: rest ∧ (first = 0x30 → rest = []) := by
  have nonzero : ∀ digit < 10, 0 < digit → digitByte digit ≠ 0x30 := by decide
  have strong : ∃ first rest, Utf8.encode (numeral n) = first :: rest ∧
      (0 < n → first ≠ 0x30) ∧ (n = 0 → rest = []) := by
    refine numeral_induction (motive := fun n bytes => ∃ first rest, bytes = first :: rest ∧
      (0 < n → first ≠ 0x30) ∧ (n = 0 → rest = [])) ?single ?longer n
    case single =>
      intro digit small
      exact ⟨_, [], rfl, nonzero digit small, fun _ => rfl⟩
    case longer =>
      rintro tens digit _ tensPositive _ ⟨first, rest, rfl, positive, _⟩
      exact ⟨first, rest ++ [digitByte digit], rfl, fun _ => positive tensPositive, by omega⟩
  obtain ⟨first, rest, bytes, positive, zero⟩ := strong
  refine ⟨first, rest, bytes, fun leading => zero ?_⟩
  by_cases isZero : n = 0
  · exact isZero
  · exact absurd leading (positive (Nat.pos_of_ne_zero isZero))

/-- One more digit extends a significand that has taken all digits so far. -/
theorem significand_append {value taken : Nat} {bytes : List UInt8} {digit : UInt8}
    (all : significand value bytes = (taken, []))
    (fits : taken * 10 + digitValue digit < 2 ^ 64) :
    significand value (bytes ++ [digit]) = (taken * 10 + digitValue digit, []) := by
  induction bytes generalizing value with
  | nil =>
    simp only [significand, Prod.mk.injEq, and_true] at all
    subst all
    have below : value * 10 + digitValue digit < 18446744073709551616 := fits
    simp [significand, below]
  | cons byte bytes inductionHypothesis =>
    simp only [significand, List.cons_append] at all ⊢
    split at all
    · next below => rw [if_pos below]; exact inductionHypothesis all
    · simp at all

/-- The significand of a numeral is its number. -/
theorem significand_numeral {n : Nat} (fits : n < 2 ^ 64) :
    significand 0 (Utf8.encode (numeral n)) = (n, []) := by
  refine numeral_induction (motive := fun n bytes => n < 2 ^ 64 → significand 0 bytes = (n, []))
    ?single ?longer n fits
  case single =>
    intro digit small fits
    have below : digit < 18446744073709551616 := fits
    simp [significand, digitByte_value digit small, below]
  case longer =>
    intro tens digit bytes _ small earlier fits
    have value := digitByte_value digit small
    have taken : significand 0 (bytes ++ [digitByte digit])
        = (tens * 10 + digitValue (digitByte digit), []) :=
      significand_append (earlier (by omega)) (by rw [value]; omega)
    rw [taken, value, Nat.mul_comm]

end Decimal

namespace Json.Numeral

/-- Whether a byte behind a numeral would belong to it. -/
def continues (byte : UInt8) : Bool :=
  isDigit byte || byte == 0x2E || byte == 0x65 || byte == 0x45

/-- What can follow a numeral: the end of the text, or a byte that does not belong to it. -/
def Ends (rest : List UInt8) : Prop :=
  ∀ byte ∈ rest.head?, continues byte = false

/-- A numeral ends in front of a byte that does not continue it. -/
theorem ends_cons {byte : UInt8} {rest : List UInt8} :
    Ends (byte :: rest) ↔ continues byte = false := by
  simp [Ends]

/-- Behind an ended numeral stands no byte that would belong to it. -/
theorem Ends.head_ne {rest : List UInt8} (ends : Ends rest) {byte : UInt8}
    (belongs : continues byte = true) : rest.head? ≠ some byte :=
  fun head => absurd belongs (by rw [ends byte head]; decide)

/-- The numeral of a whole number. -/
def ofDigits (whole : List UInt8) : Numeral :=
  ⟨false, whole, [], false, []⟩

/-- A run of digits ends where no digit follows. -/
theorem digits_append {run rest : List UInt8} (nonempty : run ≠ [])
    (allDigits : ∀ byte ∈ run, isDigit byte = true) (ends : Ends rest) :
    digits (run ++ rest) = .ok (run, rest) := by
  have stops : rest.takeWhile isDigit = [] ∧ rest.dropWhile isDigit = rest := by
    cases rest with
    | nil => exact ⟨rfl, rfl⟩
    | cons byte rest =>
      have other := ends_cons.mp ends
      simp only [continues, Bool.or_eq_false_iff] at other
      simp [other.1.1.1]
  have taken : (run ++ rest).takeWhile isDigit = run := by
    rw [List.takeWhile_append_of_pos allDigits, stops.1, List.append_nil]
  have left : (run ++ rest).dropWhile isDigit = rest := by
    rw [List.dropWhile_append_of_pos allDigits, stops.2]
  unfold digits
  rw [taken, left]
  cases run with
  | nil => exact absurd rfl nonempty
  | cons => rfl

/-- A printed number is scanned as its digits, up to where it ends. -/
theorem scan_numeral (n : Nat) {rest : List UInt8} (ends : Ends rest) :
    scan (Utf8.encode (Decimal.numeral n) ++ rest)
      = .ok (ofDigits (Utf8.encode (Decimal.numeral n)), rest) := by
  have allDigits := Decimal.numeral_isDigit n
  obtain ⟨first, others, bytes, alone⟩ := Decimal.numeral_first n
  rw [bytes] at allDigits ⊢
  have unsigned : first ≠ 0x2D := by
    rintro rfl
    exact absurd (allDigits 0x2D List.mem_cons_self) (by decide)
  have whole : wholeDigits (first :: others ++ rest) = .ok (first :: others, rest) := by
    unfold wholeDigits
    rw [digits_append (List.cons_ne_nil _ _) allDigits ends]
    simpa using alone
  have noFraction : fractionDigits rest = .ok ([], rest) :=
    if_neg (ends.head_ne (by decide))
  have noExponent : exponentDigits rest = .ok ((false, []), rest) :=
    if_neg (not_or.mpr ⟨ends.head_ne (by decide), ends.head_ne (by decide)⟩)
  have noSign : (first :: others ++ rest).head? ≠ some 0x2D := by simpa using unsigned
  rw [scan, if_neg noSign, scanUnsigned]
  simp only [whole, noFraction, noExponent, bind, Except.bind, pure, Except.pure, ofDigits]

/-- Rounding at most doubles a number: the unit it rounds to is not above the number. -/
theorem roundToDouble_le {n : Nat} (positive : 0 < n) : roundToDouble n ≤ 2 * n := by
  unfold roundToDouble
  dsimp only
  have small : 1 <<< (n.log2 + 1 - 53) ≤ n := by
    rw [Nat.one_shiftLeft]
    exact Nat.le_trans (Nat.pow_le_pow_right (by decide) (by omega))
      (Nat.log2_self_le (Nat.ne_of_gt positive))
  have whole := Nat.div_mul_le_self n (1 <<< (n.log2 + 1 - 53))
  split
  · rw [Nat.succ_mul]
    omega
  · omega

/-- A whole number below 2⁶⁴ is far from the largest double. -/
theorem ofDigits_not_tooLarge {whole : List UInt8} {n : Nat}
    (reads : significand 0 whole = (n, [])) (fits : n < 2 ^ 64) :
    (ofDigits whole).tooLarge = false := by
  have bounded : exceedsDouble n 0 = false := by
    unfold exceedsDouble
    split
    · rfl
    · next nonzero =>
      have limit : 2 ^ 65 < doubleLimit := by decide
      have rounded := roundToDouble_le (n := n) (by omega)
      have one : roundToDouble (Nat.pow 10 (Int.toNat 0)) = 1 := by decide
      rw [if_neg (by decide), one, decide_eq_false_iff_not]
      omega
  simpa [tooLarge, ofDigits, reads, significand, smallNumber] using bounded

/-- A printed number below 2⁶⁴ has itself as its value. -/
theorem value_numeral {n : Nat} (fits : n < 2 ^ 64) :
    (ofDigits (Utf8.encode (Decimal.numeral n))).value = .ok (.natural n) := by
  have reads := Decimal.significand_numeral fits
  unfold value
  rw [ofDigits_not_tooLarge reads fits]
  simp [ofDigits, reads]

end Json.Numeral

end Chip8
