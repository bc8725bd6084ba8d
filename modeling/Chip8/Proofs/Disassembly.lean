import Mathlib.Algebra.Group.Nat.Defs
import Mathlib.Tactic.FinCases
import Chip8.Instruction.Mnemonic
import Chip8.Proofs.Bounds
import Chip8.Proofs.Encoding

/-!
# Opcodes from their texts

The text of an instruction can be read back. Blanks separate its pieces, and commas stand only
in front of blanks; the first characters of an argument and the number of its digits say what it
is; and a numeral denotes its number. The word and the kinds of the arguments belong to one row
of the instruction table, the numbers are the operands of the row, and the opcode is made up of
both.
-/

namespace Chip8

namespace Hex

/-- The value of an upper-case digit. -/
def digitValue (digit : Char) : Nat :=
  if digit.toNat < 65 then digit.toNat - 48 else digit.toNat - 55

/-- The number that a run of digits denotes. -/
def value (digits : List Char) : Nat :=
  digits.foldl (fun number digit => 16 * number + digitValue digit) 0

/-- Each of the sixteen digits has the value it is printed for. -/
theorem digitValue_digit : ∀ n < 16, digitValue (digit n) = n := by
  decide

/-- As many digits are printed as are asked for. -/
theorem length_digits (width n : Nat) : (digits width n).length = width := by
  induction width generalizing n with
  | zero => rfl
  | succ width inductionHypothesis =>
    rw [digits, List.length_append, inductionHypothesis, List.length_singleton]

/-- Digits denote what they are the lowest digits of, as far as they reach. -/
theorem value_digits (width n : Nat) : value (digits width n) = n % 16 ^ width := by
  induction width generalizing n with
  | zero => rw [Nat.pow_zero, Nat.mod_one]; rfl
  | succ width inductionHypothesis =>
    have shifted (front : List Char) (last : Char) :
        value (front ++ [last]) = 16 * value front + digitValue last := List.foldl_concat ..
    rw [digits, shifted, inductionHypothesis, digitValue_digit _ (Nat.mod_lt n (by decide)),
      Nat.pow_succ', Nat.mod_mul]
    omega

/-- A number has no more digits than its size says. -/
theorem lt_pow_size (n : Nat) : n < 16 ^ size n := by
  have bits : n.log2 + 1 ≤ 4 * size n := by
    rw [size]
    omega
  calc n
    _ < 2 ^ (n.log2 + 1) := Nat.lt_log2_self
    _ ≤ 2 ^ (4 * size n) := Nat.pow_le_pow_right (by decide) bits
    _ = 16 ^ size n := Nat.pow_mul 2 4 (size n)

/-- The size of a number is no more than what it fits in. -/
theorem size_le {width n : Nat} (positive : 0 < width) (fits : n < 16 ^ width) :
    size n ≤ width := by
  rw [size]
  by_cases zero : n = 0
  · rw [zero, Nat.log2_zero]
    omega
  · have bits : n < 2 ^ (4 * width) := Nat.lt_of_lt_of_eq fits (Nat.pow_mul 2 4 width).symm
    have short := (Nat.log2_lt zero).mpr bits
    omega

/-- No digit is cut off, so a numeral denotes its number. -/
theorem value_padded (width n : Nat) : value (padded width n).toList = n := by
  have reach : n < 16 ^ max width (size n) :=
    Nat.lt_of_lt_of_le (lt_pow_size n) (Nat.pow_le_pow_right (by decide) (Nat.le_max_right _ _))
  rw [padded, String.toList_ofList, value_digits, Nat.mod_eq_of_lt reach]

/-- A padded numeral has the asked width, or more where the number needs it. -/
theorem length_padded (width n : Nat) :
    (padded width n).toList.length = max width (size n) := by
  rw [padded, String.toList_ofList, length_digits]

end Hex

/-- A text in one piece: it has neither of the characters that stand between pieces. -/
def Unbroken (text : List Char) : Prop :=
  ∀ c ∈ text, c ≠ ' ' ∧ c ≠ ','

instance (text : List Char) : Decidable (Unbroken text) :=
  List.decidableBAll (fun c => c ≠ ' ' ∧ c ≠ ',') text

namespace Unbroken

/-- Two texts in one piece are one piece when joined. -/
theorem append {first second : List Char} (former : Unbroken first) (latter : Unbroken second) :
    Unbroken (first ++ second) := by
  intro c member
  rcases List.mem_append.mp member with before | after
  · exact former c before
  · exact latter c after

/-- Digits are in one piece. -/
theorem digits (width n : Nat) : Unbroken (Hex.digits width n) := by
  induction width generalizing n with
  | zero => exact List.forall_mem_nil _
  | succ width inductionHypothesis =>
    have alone : ∀ n < 16, Unbroken [Hex.digit n] := by decide
    exact (inductionHypothesis _).append (alone _ (Nat.mod_lt n (by decide)))

/-- So are padded digits. -/
theorem padded (width n : Nat) : Unbroken (Hex.padded width n).toList := by
  rw [Hex.padded, String.toList_ofList]
  exact digits _ n

/-- So is a hexadecimal numeral with the `0x` in front. -/
theorem numeral (width n : Nat) : Unbroken (Hex.numeral width n).toList := by
  rw [Hex.numeral, String.toList_append]
  exact append (by decide) (padded width n)

/-- So is a decimal numeral. -/
theorem decimal (n : Nat) : Unbroken (Decimal.numeral n).toList := by
  intro c member
  rw [Decimal.numeral, String.toList_ofList] at member
  have digit := Nat.isDigit_of_mem_toDigits (by decide) (by decide) member
  constructor <;> rintro rfl <;> exact absurd digit (by decide)

/-- A text in one piece has no comma to be left out. -/
theorem filter_eq {text : List Char} (unbroken : Unbroken text) : text.filter (· ≠ ',') = text :=
  List.filter_eq_self.mpr fun c member => decide_eq_true (unbroken c member).2

end Unbroken

namespace Argument

/-- Read an argument by its first characters. The digits after `0x` are those of a byte or of an
address, which their number says. -/
def ofText : List Char → Argument
  | 'V' :: digits => .register (UInt16.ofNat (Hex.value digits))
  | '0' :: 'x' :: digits =>
    if digits.length = 2 then .byte (UInt16.ofNat (Hex.value digits))
    else .address (UInt16.ofNat (Hex.value digits))
  | text =>
    if text.all Char.isDigit then .count (UInt16.ofNat (Nat.ofDigitChars 10 text 0))
    else .part (String.ofList text)

/-- The argument as which the text of an argument is read. A name can look like something else:
the `V0` of a jump is read as a register. -/
def normal : Argument → Argument
  | .part name => ofText name.toList
  | argument => argument

/-- Bytes have two digits, addresses more, and a name is in one piece. -/
def Plain : Argument → Prop
  | .byte value => value.toNat < 256
  | .part name => Unbroken name.toList
  | _ => True

/-- The text of a plain argument is in one piece. -/
theorem unbroken_text {argument : Argument} (plain : argument.Plain) :
    Unbroken argument.text.toList := by
  cases argument with
  | register number =>
    rw [text, String.toList_append]
    exact Unbroken.append (by decide) (Unbroken.padded 1 _)
  | byte value => exact Unbroken.numeral 2 _
  | address value => exact Unbroken.numeral 3 _
  | count value => exact Unbroken.decimal _
  | part name => exact plain

/-- A `V` and digits are read as the register they number. -/
theorem ofText_register (n : Nat) :
    ofText ("V" ++ Hex.padded 1 n).toList = .register (UInt16.ofNat n) := by
  have opened (digits : List Char) :
      ofText ("V".toList ++ digits) = .register (UInt16.ofNat (Hex.value digits)) := rfl
  rw [String.toList_append, opened, Hex.value_padded]

/-- A `0x` and two digits are read as a byte, a `0x` and another number of digits as an
address. -/
theorem ofText_numeral (width n : Nat) :
    ofText (Hex.numeral width n).toList =
      if max width (Hex.size n) = 2 then .byte (UInt16.ofNat n)
      else .address (UInt16.ofNat n) := by
  have opened (digits : List Char) :
      ofText ("0x".toList ++ digits) =
        if digits.length = 2 then .byte (UInt16.ofNat (Hex.value digits))
        else .address (UInt16.ofNat (Hex.value digits)) := rfl
  rw [Hex.numeral, String.toList_append, opened, Hex.length_padded, Hex.value_padded]

/-- A decimal numeral is read as a count. -/
theorem ofText_decimal (n : Nat) :
    ofText (Decimal.numeral n).toList = .count (UInt16.ofNat n) := by
  have decimal : ∀ c ∈ Nat.toDigits 10 n, c.isDigit = true := fun _ =>
    Nat.isDigit_of_mem_toDigits (by decide) (by decide)
  rw [Decimal.numeral, String.toList_ofList]
  -- Neither a `V` nor the `x` behind a zero is a digit.
  unfold ofText
  split
  case h_1 digits cut =>
    exact absurd (decimal 'V' (cut ▸ List.mem_cons_self)) (by decide)
  case h_2 digits cut =>
    exact absurd (decimal 'x' (cut ▸ List.mem_cons_of_mem _ List.mem_cons_self)) (by decide)
  case h_3 =>
    rw [if_pos (List.all_eq_true.mpr decimal), Nat.ofDigitChars_toDigits (by decide) (by decide)]

/-- The text of an argument is read as the argument, up to names. -/
theorem ofText_text {argument : Argument} (plain : argument.Plain) :
    ofText argument.text.toList = argument.normal := by
  cases argument with
  | register number => rw [text, ofText_register, UInt16.ofNat_toNat, normal.eq_def]
  | byte value =>
    have short : max 2 (Hex.size value.toNat) = 2 :=
      Nat.max_eq_left (Hex.size_le (by decide) plain)
    rw [text, ofText_numeral, if_pos short, UInt16.ofNat_toNat, normal.eq_def]
  | address value =>
    have long : max 3 (Hex.size value.toNat) ≠ 2 := by omega
    rw [text, ofText_numeral, if_neg long, UInt16.ofNat_toNat, normal.eq_def]
  | count value => rw [text, ofText_decimal, UInt16.ofNat_toNat, normal.eq_def]
  | part name => rfl

/-- The kind of an argument, without the number it carries. -/
def kind : Argument → Argument
  | .register _ => .register 0
  | .byte _ => .byte 0
  | .address _ => .address 0
  | .count _ => .count 0
  | .part name => .part name

/-- The number an argument carries. -/
def number : Argument → UInt16
  | .register number => number
  | .byte value => value
  | .address value => value
  | .count value => value
  | .part _ => 0

/-- The numbers of arguments that stand where numbers are expected, and not names. -/
def operands : (expected arguments : List Argument) → List UInt16
  | .part _ :: expected, _ :: arguments => operands expected arguments
  | _ :: expected, argument :: arguments => argument.number :: operands expected arguments
  | _, _ => []

end Argument

namespace Mnemonic

/-- Read a mnemonic from a text. Blanks separate its pieces, the first of which is the word;
commas are left out. -/
def ofText (text : String) : Mnemonic :=
  match (text.toList.filter (· ≠ ',')).splitOn ' ' with
  | [] => ⟨"", []⟩
  | word :: arguments => ⟨String.ofList word, arguments.map Argument.ofText⟩

/-- The mnemonic as which the text of a mnemonic is read. -/
def normal (mnemonic : Mnemonic) : Mnemonic :=
  ⟨mnemonic.word, mnemonic.arguments.map Argument.normal⟩

/-- The word of a mnemonic, and the kinds of its arguments. -/
def kind (mnemonic : Mnemonic) : Mnemonic :=
  ⟨mnemonic.word, mnemonic.arguments.map Argument.kind⟩

/-- The word is in one piece, and so are the arguments. -/
def Plain (mnemonic : Mnemonic) : Prop :=
  Unbroken mnemonic.word.toList ∧ ∀ argument ∈ mnemonic.arguments, argument.Plain

/-- Without the commas, arguments stand between blanks. -/
theorem filter_intercalate {texts : List (List Char)} (unbroken : ∀ text ∈ texts, Unbroken text) :
    ([',', ' '].intercalate texts).filter (· ≠ ',') = [' '].intercalate texts := by
  induction texts with
  | nil => rfl
  | cons first rest inductionHypothesis =>
    obtain ⟨piece, pieces⟩ := List.forall_mem_cons.mp unbroken
    cases rest with
    | nil => rw [List.intercalate_singleton, List.intercalate_singleton, piece.filter_eq]
    | cons second others =>
      rw [List.intercalate_cons_cons, List.filter_append, List.filter_append, piece.filter_eq,
        inductionHypothesis pieces, List.intercalate_cons_cons]
      rfl

/-- The pieces of the text of a mnemonic. -/
def pieces (mnemonic : Mnemonic) : List (List Char) :=
  mnemonic.word.toList :: mnemonic.arguments.map (·.text.toList)

/-- The pieces of a plain mnemonic are each in one piece. -/
theorem Plain.unbroken {mnemonic : Mnemonic} (plain : mnemonic.Plain) :
    ∀ piece ∈ mnemonic.pieces, Unbroken piece := by
  obtain ⟨word, arguments⟩ := plain
  refine List.forall_mem_cons.mpr ⟨word, ?_⟩
  intro piece member
  obtain ⟨argument, listed, rfl⟩ := List.mem_map.mp member
  exact Argument.unbroken_text (arguments argument listed)

/-- Without the commas, the pieces of a mnemonic stand between blanks. -/
theorem filter_text {mnemonic : Mnemonic} (plain : mnemonic.Plain) :
    mnemonic.text.toList.filter (· ≠ ',') = [' '].intercalate mnemonic.pieces := by
  obtain ⟨word, others⟩ := List.forall_mem_cons.mp plain.unbroken
  obtain ⟨name, arguments⟩ := mnemonic
  cases arguments with
  | nil =>
    rw [pieces, List.map_nil, List.intercalate_singleton]
    exact word.filter_eq
  | cons first rest =>
    have text : (Mnemonic.text ⟨name, first :: rest⟩).toList =
        name.toList ++ [' '] ++ [',', ' '].intercalate ((first :: rest).map (·.text.toList)) := by
      simp [Mnemonic.text, String.toList_intercalate, Function.comp_def]
    rw [text, List.filter_append, List.filter_append, word.filter_eq, filter_intercalate others,
      pieces, List.map_cons, List.intercalate_cons_cons]
    rfl

/-- The text of a mnemonic is read as the mnemonic, up to names. -/
theorem ofText_text {mnemonic : Mnemonic} (plain : mnemonic.Plain) :
    ofText mnemonic.text = mnemonic.normal := by
  have split : (mnemonic.text.toList.filter (· ≠ ',')).splitOn ' ' = mnemonic.pieces := by
    rw [filter_text plain]
    refine List.splitOn_intercalate ' ' ?_ (List.cons_ne_nil _ _)
    intro piece member blank
    exact (plain.unbroken piece member ' ' blank).1 rfl
  have arguments : (mnemonic.arguments.map (·.text.toList)).map Argument.ofText =
      mnemonic.arguments.map Argument.normal := by
    rw [List.map_map]
    exact List.map_congr_left fun argument listed => Argument.ofText_text (plain.2 argument listed)
  rw [ofText, split, pieces, normal, ← arguments]
  dsimp only
  rw [String.ofList_toList]

end Mnemonic

namespace Instruction

/-- The kind of the mnemonic is one of the command, whatever the operands. -/
theorem kind_of_command {first second : Instruction} (same : first.command = second.command) :
    first.mnemonic.normal.kind = second.mnemonic.normal.kind := by
  obtain ⟨command, _, _, _, _⟩ := first
  obtain ⟨_, _, _, _, _⟩ := second
  obtain rfl : command = _ := same
  cases command <;> rfl

/-- Words and names are in one piece. Of the arguments only a byte has a bound to keep, and only
the second operand is printed as one. -/
theorem plain_mnemonic {instruction : Instruction} (small : instruction.second.toNat < 256) :
    instruction.mnemonic.Plain := by
  obtain ⟨command, _, first, second, third⟩ := instruction
  cases command <;>
    simp only [mnemonic, Mnemonic.Plain, Argument.Plain, small, List.forall_mem_cons,
      List.not_mem_nil, IsEmpty.forall_iff, implies_true, and_true, true_and] <;>
    decide

end Instruction

namespace Row

/-- The mnemonic of the row, with the operands of its pattern. -/
def template (row : Row) : Mnemonic :=
  (row.read row.pattern).mnemonic

/-- The rows of the table can be told apart by their words and the kinds of their arguments. -/
theorem kind_unique {row other : Row} (listed : row ∈ instructionTable)
    (otherListed : other ∈ instructionTable)
    (same : row.template.normal.kind = other.template.normal.kind) : row = other := by
  have apart : ∀ row ∈ instructionTable, ∀ other ∈ instructionTable,
      row.template.normal.kind = other.template.normal.kind → row = other := by
    decide +kernel
  exact apart row listed other otherListed same

/-- The second operand of a row is a byte at most. -/
theorem second_lt {row : Row} (listed : row ∈ instructionTable) (opcode : UInt16) :
    (row.read opcode).second.toNat < 256 := by
  have narrow : ∀ row ∈ instructionTable, ∀ operand ∈ row.operands[1]?,
      operand.full.toNat < 256 := by decide +kernel
  cases placed : row.operands[1]? with
  | none => simp [read, placed]
  | some operand =>
    exact Nat.lt_of_le_of_lt (operand_le opcode placed) (narrow row listed operand placed)

/-- Where the mnemonic of a row carries numbers, it carries the operands of the row. -/
theorem operands_mnemonic {row : Row} (listed : row ∈ instructionTable) (opcode : UInt16) :
    Argument.operands row.template.arguments (row.read opcode).mnemonic.normal.arguments =
      row.operands.map (·.extract opcode) := by
  fin_cases listed <;> rfl

/-- The operands that were read make up the opcode, without the zeros behind them. -/
theorem assemble_extract {row : Row} (lossless : row.Lossless) {opcode : UInt16}
    (accepted : row.accepts opcode = true) :
    row.assemble (row.operands.map (·.extract opcode)) = opcode := by
  have assembled := assemble_read lossless accepted
  rwa [operands_read lossless.2.2, assemble_append (List.length_map _)] at assembled

end Row

namespace Instruction

/-- The opcode of an instruction by its text: the row is found by the word and the kinds of the
arguments, and their numbers are its operands. -/
def opcodeOf (text : String) : Option UInt16 :=
  let mnemonic := Mnemonic.ofText text
  (instructionTable.find? fun row => row.template.normal.kind = mnemonic.kind).map fun row =>
    row.assemble (Argument.operands row.template.arguments mnemonic.arguments)

/-- An instruction of the table is found by its text. -/
theorem find_of_kind {row : Row} (listed : row ∈ instructionTable) (opcode : UInt16) :
    (instructionTable.find? fun other =>
      other.template.normal.kind = (row.read opcode).mnemonic.normal.kind) = some row := by
  have same : row.template.normal.kind = (row.read opcode).mnemonic.normal.kind :=
    kind_of_command rfl
  -- The operands do not matter from here on, only which rows look alike.
  rw [← same]
  cases found : instructionTable.find? fun other =>
      other.template.normal.kind = row.template.normal.kind with
  | none => exact absurd (decide_eq_true rfl) (List.find?_eq_none.mp found row listed)
  | some other =>
    have alike : other.template.normal.kind = row.template.normal.kind := by
      simpa only [decide_eq_true_eq] using List.find?_some found
    exact congrArg some (Row.kind_unique (List.mem_of_find?_eq_some found) listed alike)

/-- The text of a decoded instruction gives back its opcode. -/
theorem opcodeOf_text {opcode : UInt16} {instruction : Instruction}
    (decoded : decode opcode = .ok instruction) : opcodeOf instruction.text = some opcode := by
  obtain ⟨row, listed, accepted, rfl⟩ := row_of_decode decoded
  have reading := Mnemonic.ofText_text (plain_mnemonic (Row.second_lt listed opcode))
  rw [opcodeOf, text, reading, find_of_kind listed, Option.map_some,
    Row.operands_mnemonic listed, Row.assemble_extract (table_lossless row listed) accepted]

/-- The text of an instruction is unambiguous: the opcode of a decoded instruction can be read
from its text, and no two opcodes are printed alike.

Proof: the pieces of the text stand between its blanks, and each is read as the argument that was
printed, up to names. The word and the kinds of the arguments depend on the command alone and
differ from row to row, so they give the row; the numbers are its operands, and with its pattern
they make up the opcode. -/
theorem text_unambiguous :
    (∀ opcode instruction, decode opcode = .ok instruction →
      opcodeOf instruction.text = some opcode) ∧
    (∀ a b first second, decode a = .ok first → decode b = .ok second →
      first.text = second.text → a = b) := by
  refine ⟨fun opcode instruction => opcodeOf_text, ?_⟩
  intro a b first second decoded otherDecoded alike
  have read : opcodeOf second.text = some a := alike ▸ opcodeOf_text decoded
  exact Option.some.inj (read.symm.trans (opcodeOf_text otherDecoded))

/-- From `JP V0, 0x204` the opcode `B204` is read, though `V0` looks like a register; and only
this opcode is printed so. -/
theorem offset_jump_recovered :
    let jump : Instruction := ⟨.jumpOffset, 0xB204, 0x204, 0, 0⟩
    (decode 0xB204 = .ok jump ∧ jump.text = "JP V0, 0x204") ∧
      opcodeOf "JP V0, 0x204" = some 0xB204 ∧
      (∀ opcode instruction, decode opcode = .ok instruction →
        instruction.text = "JP V0, 0x204" → opcode = 0xB204) := by
  intro jump
  have decoded : decode 0xB204 = .ok jump := by rfl
  have printed : jump.text = "JP V0, 0x204" := by decide +kernel
  obtain ⟨recovered, distinct⟩ := text_unambiguous
  refine ⟨⟨decoded, printed⟩, ?_, ?_⟩
  · rw [← printed]
    exact recovered 0xB204 jump decoded
  · intro opcode instruction otherDecoded alike
    exact distinct opcode 0xB204 instruction jump otherDecoded decoded (alike.trans printed.symm)

end Instruction

end Chip8
