import Mathlib.Data.List.Chain
import Chip8.Json.Token
import Chip8.Proofs.Numeral

/-!
# Reading lexemes

The tokens that settings are written with have each one spelling, its lexeme. A text that
spells a list of lexemes with any blanks around them is read as the tokens of that list. Only
two numbers must not stand side by side, since without a blank they would be one.
-/

namespace Chip8.Json

/-- A character that stands for itself in a quoted text: printable ASCII other than the quote
and the backslash. -/
def isPlain (char : Char) : Bool :=
  0x20 ≤ char.toNat && char.toNat < 0x80 && char != '"' && char != '\\'

/-- A token with one spelling. Quoted texts need no escapes. -/
inductive Lexeme where
  | openObject
  | closeObject
  | comma
  | colon
  | word (value : Word)
  | natural (value : UInt64)
  | quoted (text : String) (plain : text.toList.all isPlain = true)

/-- The letters of a word. -/
def Word.text : Word → String
  | true => "true"
  | false => "false"
  | null => "null"

namespace Lexeme

/-- The spelling of a lexeme. -/
def text : Lexeme → String
  | openObject => "\x7b"
  | closeObject => "\x7d"
  | comma => ","
  | colon => ":"
  | word value => value.text
  | natural value => Decimal.numeral value.toNat
  | quoted text _ => "\"" ++ text ++ "\""

/-- The token that a lexeme spells. -/
def token : Lexeme → Token
  | openObject => .openObject
  | closeObject => .closeObject
  | comma => .comma
  | colon => .colon
  | word value => .word (.ok value)
  | natural value => .number (.ok (.natural value.toNat)) (.ok ())
  | quoted text _ => .text (.ok (Utf8.encode text)) (.ok ())

/-- Whether a lexeme is a number. -/
def isNatural : Lexeme → Bool
  | natural _ => true
  | _ => false

/-- The lexemes spelt one after the other without blanks. -/
def joined : List Lexeme → String
  | [] => ""
  | lexeme :: lexemes => lexeme.text ++ joined lexemes

/-- Lexemes are written one after another. -/
theorem joined_append (first second : List Lexeme) :
    joined (first ++ second) = joined first ++ joined second := by
  induction first with
  | nil => simp [joined]
  | cons lexeme lexemes inductionHypothesis =>
    simp [joined, inductionHypothesis, String.append_assoc]

end Lexeme

/-- A text of blanks, tabs, line feeds and carriage returns, or an empty one. -/
def Blank (text : String) : Prop :=
  ∀ char ∈ text.toList, char ∈ [' ', '\t', '\n', '\r']

instance (text : String) : Decidable (Blank text) :=
  List.decidableBAll _ text.toList

/-- The text spells the lexemes in their order, with blanks before, between and behind them
at will. -/
inductive Spells : List Lexeme → String → Prop where
  | finish {blank : String} (blanks : Blank blank) : Spells [] blank
  | next {blank rest : String} {lexemes : List Lexeme} (lexeme : Lexeme)
      (blanks : Blank blank) (spells : Spells lexemes rest) :
      Spells (lexeme :: lexemes) (blank ++ lexeme.text ++ rest)

/-- No two numbers stand side by side. -/
def Separated (lexemes : List Lexeme) : Prop :=
  lexemes.IsChain fun first second => first.isNatural = true → second.isNatural = false

/-- Lexemes without blanks are spelt too. -/
theorem spells_joined (lexemes : List Lexeme) : Spells lexemes (Lexeme.joined lexemes) := by
  have empty : Blank "" := by simp [Blank]
  induction lexemes with
  | nil => exact .finish empty
  | cons lexeme lexemes inductionHypothesis =>
    have spelt := Spells.next lexeme empty inductionHypothesis
    rwa [String.empty_append] at spelt

/-- Every byte of a blank text is a blank. -/
theorem Blank.encode {text : String} (blank : Blank text) :
    ∀ byte ∈ Utf8.encode text, isBlank byte = true := by
  intro byte member
  obtain ⟨char, inText, inChar⟩ := List.mem_flatMap.mp member
  have four : ([' ', '\t', '\n', '\r'].all fun char =>
      (String.utf8EncodeChar char).all isBlank) = true := by
    decide
  have one := List.all_eq_true.mp four char (blank char inText)
  exact List.all_eq_true.mp one byte inChar

/-- A blank ends a number. -/
theorem continues_blank {byte : UInt8} (blank : isBlank byte = true) :
    Numeral.continues byte = false := by
  simp only [isBlank, Bool.or_eq_true, beq_iff_eq] at blank
  obtain ((rfl | rfl) | rfl) | rfl := blank <;> decide

/-- Blanks before a token are skipped. -/
theorem Token.next_blank {text : String} (blank : Blank text) (bytes : List UInt8) :
    next (Utf8.encode text ++ bytes) = next bytes := by
  unfold next
  rw [List.dropWhile_append_of_pos blank.encode]

/-- A byte that stands for itself in a quoted text. -/
structure PlainByte (byte : UInt8) : Prop where
  printable : 0x20 ≤ byte
  ascii : byte < 0x80
  noQuote : byte ≠ 0x22
  noBackslash : byte ≠ 0x5C

/-- A plain character is one plain byte. -/
theorem encode_plain {text : String} (plain : text.toList.all isPlain = true) :
    ∀ byte ∈ Utf8.encode text, PlainByte byte := by
  intro byte member
  obtain ⟨char, inText, inChar⟩ := List.mem_flatMap.mp member
  have charPlain := List.all_eq_true.mp plain char inText
  simp only [isPlain, Bool.and_eq_true, decide_eq_true_eq, bne_iff_ne, ne_eq] at charPlain
  obtain ⟨⟨⟨low, high⟩, noQuote⟩, noBackslash⟩ := charPlain
  have noQuoteCode : char.toNat ≠ 0x22 := fun same => noQuote (Char.toNat_inj.mp same)
  have noBackslashCode : char.toNat ≠ 0x5C := fun same => noBackslash (Char.toNat_inj.mp same)
  have single : byte = UInt8.ofNat char.toNat := by
    have small : char.val.toNat ≤ 127 := by
      have : char.val.toNat = char.toNat := rfl
      omega
    rw [String.utf8EncodeChar, if_pos small] at inChar
    exact List.mem_singleton.mp inChar
  have code : byte.toNat = char.toNat := by
    rw [single, UInt8.toNat_ofNat', Nat.mod_eq_of_lt (by omega)]
  constructor
  case printable => rwa [UInt8.le_iff_toNat_le, code]
  case ascii => rwa [UInt8.lt_iff_toNat_lt, code]
  case noQuote => rwa [ne_eq, ← UInt8.toNat_inj, code]
  case noBackslash => rwa [ne_eq, ← UInt8.toNat_inj, code]

/-- ASCII bytes are valid UTF-8. -/
theorem isValid_of_ascii {bytes : List UInt8} (ascii : ∀ byte ∈ bytes, byte < 0x80) :
    Utf8.isValid bytes = true := by
  have kept : bytes.foldlM Utf8.step [] = some [] := by
    induction bytes with
    | nil => rfl
    | cons byte bytes inductionHypothesis =>
      have first : Utf8.step [] byte = some [] := if_pos (ascii byte List.mem_cons_self)
      rw [List.foldlM_cons, first]
      exact inductionHypothesis fun other member => ascii other (List.mem_cons_of_mem byte member)
  simp [Utf8.isValid, kept]

/-- A plain text is read up to its closing quote, exactly and laxly alike. -/
theorem Text.Scan.run_plain (rigor : Rigor) {bytes : List UInt8} (rest : List UInt8)
    (plain : ∀ byte ∈ bytes, PlainByte byte) :
    Text.Scan.start.run rigor (bytes ++ 0x22 :: rest) = .ok (bytes, rest) := by
  have gathered (taken bytes : List UInt8) (plain : ∀ byte ∈ bytes, PlainByte byte) :
      Scan.run rigor ⟨taken, .plain⟩ (bytes ++ 0x22 :: rest)
        = Scan.run rigor ⟨bytes.reverse ++ taken, .plain⟩ (0x22 :: rest) := by
    induction bytes generalizing taken with
    | nil => rfl
    | cons byte bytes inductionHypothesis =>
      have self := plain byte List.mem_cons_self
      have added : Scan.step rigor ⟨taken, .plain⟩ byte = .ok ⟨byte :: taken, .plain⟩ := by
        simp [Scan.step, self.noBackslash, UInt8.not_lt.mpr self.printable]
      rw [List.cons_append, Scan.run, if_neg (fun closing => self.noQuote closing.2), added]
      dsimp only
      rw [inductionHypothesis _ fun other member => plain other (List.mem_cons_of_mem byte member)]
      simp
  have closed : Scan.close rigor ⟨bytes.reverse, .plain⟩ = .ok bytes := by
    have valid := isValid_of_ascii fun byte member => (plain byte member).ascii
    simp [Scan.close, valid]
  rw [Scan.start, gathered [] bytes plain, List.append_nil, Scan.run, if_pos ⟨rfl, rfl⟩, closed]

namespace Lexeme

/-- A word is read as itself. -/
theorem next_word (value : Word) (rest : List UInt8) :
    Token.next (Utf8.encode value.text ++ rest) = some (.word (.ok value), rest) := by
  cases value <;> rfl

/-- A table whose entries are no digits has none for a digit. -/
theorem lookup_digit {α : Type} {table : List (UInt8 × α)} {byte : UInt8}
    (others : ∀ entry ∈ table, Numeral.isDigit entry.1 = false)
    (digit : Numeral.isDigit byte = true) : table.lookup byte = none := by
  rw [List.lookup_eq_none_iff]
  intro entry member
  rw [bne_iff_ne]
  rintro rfl
  exact absurd digit (by rw [others entry member]; decide)

/-- A printed number is read as itself where it ends. -/
theorem next_natural (value : UInt64) {rest : List UInt8} (ends : Numeral.Ends rest) :
    Token.next (Utf8.encode (Decimal.numeral value.toNat) ++ rest)
      = some (.number (.ok (.natural value.toNat)) (.ok ()), rest) := by
  obtain ⟨first, others, bytes, _⟩ := Decimal.numeral_first value.toNat
  have digit : Numeral.isDigit first = true :=
    Decimal.numeral_isDigit value.toNat first (by rw [bytes]; exact List.mem_cons_self)
  have belongs : Numeral.continues first = true := by simp [Numeral.continues, digit]
  have notBlank : ¬isBlank first = true := fun blank =>
    absurd belongs (by rw [continues_blank blank]; decide)
  have read : Token.takeNumber (Utf8.encode (Decimal.numeral value.toNat) ++ rest)
      = (.number (.ok (.natural value.toNat)) (.ok ()), rest) := by
    rw [Token.takeNumber, Numeral.scan_numeral _ ends]
    dsimp only
    rw [Numeral.value_numeral value.toNat_lt]
  have noQuote : first ≠ 0x22 := by
    rintro rfl
    exact absurd digit (by decide)
  have noPunctuation : Token.punctuation.lookup first = none := lookup_digit (by decide) digit
  have noWord : Token.words.lookup first = none := lookup_digit (by decide) digit
  rw [bytes] at read ⊢
  rw [Token.next, List.cons_append, List.dropWhile_cons_of_neg notBlank]
  simp only [Token.take, noPunctuation, noWord, if_neg noQuote, digit, or_true, if_true]
  exact congrArg some read

/-- A quoted text without escapes is read as itself. -/
theorem next_quoted {text : String} (plain : text.toList.all isPlain = true)
    (rest : List UInt8) :
    Token.next (Utf8.encode ("\"" ++ text ++ "\"") ++ rest)
      = some (.text (.ok (Utf8.encode text)) (.ok ()), rest) := by
  have read (rigor : Rigor) := Text.Scan.run_plain rigor rest (encode_plain plain)
  have bytes : Utf8.encode ("\"" ++ text ++ "\"") ++ rest
      = 0x22 :: (Utf8.encode text ++ 0x22 :: rest) := by
    have quote : Utf8.encode "\"" = [0x22] := by decide
    rw [Utf8.encode_append, Utf8.encode_append, quote]
    simp
  have taken : Token.takeText (Utf8.encode text ++ 0x22 :: rest)
      = (.text (.ok (Utf8.encode text)) (.ok ()), rest) := by
    simp only [Token.takeText, read, Except.map]
  rw [bytes]
  exact congrArg some taken

/-- A lexeme is read as its token, and what follows it is left. A number needs an end. -/
theorem next_text (lexeme : Lexeme) {rest : List UInt8}
    (ends : lexeme.isNatural = true → Numeral.Ends rest) :
    Token.next (Utf8.encode lexeme.text ++ rest) = some (lexeme.token, rest) := by
  cases lexeme with
  | openObject | closeObject | comma | colon => rfl
  | word value => exact next_word value rest
  | natural value => exact next_natural value (ends rfl)
  | quoted text plain => exact next_quoted plain rest

/-- A lexeme other than a number ends a number before it. -/
theorem ends_text {lexeme : Lexeme} (other : lexeme.isNatural = false) (rest : List UInt8) :
    Numeral.Ends (Utf8.encode lexeme.text ++ rest) := by
  cases lexeme with
  | openObject | closeObject | comma | colon => exact Numeral.ends_cons.mpr (by decide)
  | word value => cases value <;> exact Numeral.ends_cons.mpr (by decide)
  | natural value => cases other
  | quoted text plain =>
    rw [Lexeme.text, String.append_assoc, Utf8.encode_append]
    exact Numeral.ends_cons.mpr (by decide)

end Lexeme

/-- Where no number is spelt next, a number before the text has ended. -/
theorem Spells.ends {lexemes : List Lexeme} {text : String} (spells : Spells lexemes text)
    (other : ∀ lexeme ∈ lexemes.head?, lexeme.isNatural = false) :
    Numeral.Ends (Utf8.encode text) := by
  have skipped {blank : String} (blanks : Blank blank) {rest : List UInt8}
      (ends : Numeral.Ends rest) : Numeral.Ends (Utf8.encode blank ++ rest) := by
    cases bytes : Utf8.encode blank with
    | nil => exact ends
    | cons byte others =>
      have first : byte ∈ Utf8.encode blank := by rw [bytes]; exact List.mem_cons_self
      exact Numeral.ends_cons.mpr (continues_blank (blanks.encode byte first))
  cases spells with
  | finish blanks =>
    have ended : Numeral.Ends [] := by simp [Numeral.Ends]
    simpa using skipped blanks ended
  | next lexeme blanks spells =>
    rw [String.append_assoc, Utf8.encode_append, Utf8.encode_append]
    exact skipped blanks (Lexeme.ends_text (other lexeme rfl) _)

/-- Without a further token the reader stays where it is. -/
theorem foldTokens_finish {σ : Type} {step : σ → Token → Except Problem σ} (state : σ)
    {bytes : List UInt8} (finished : Token.next bytes = none) :
    foldTokens step state bytes = .ok state := by
  rw [foldTokens]
  split
  · rfl
  · simp_all

/-- The reader takes the first token and goes on behind it. -/
theorem foldTokens_next {σ : Type} {step : σ → Token → Except Problem σ} (state : σ)
    {bytes rest : List UInt8} {token : Token} (read : Token.next bytes = some (token, rest)) :
    foldTokens step state bytes = (step state token).bind (foldTokens step · rest) := by
  rw [foldTokens]
  split
  · simp_all
  · next found =>
    rw [read] at found
    obtain ⟨rfl, rfl⟩ := Prod.mk.inj (Option.some.inj found)
    cases step state token <;> rfl

/-- A reader of a text takes the tokens of the lexemes that the text spells, one by one. -/
theorem foldTokens_spells {σ : Type} (step : σ → Token → Except Problem σ)
    {lexemes : List Lexeme} {text : String} (spells : Spells lexemes text)
    (separated : Separated lexemes) (state : σ) :
    foldTokens step state (Utf8.encode text) = (lexemes.map Lexeme.token).foldlM step state := by
  induction spells generalizing state with
  | finish blanks =>
    have finished := Token.next_blank blanks []
    rw [List.append_nil] at finished
    exact foldTokens_finish state finished
  | next lexeme blanks spells inductionHypothesis =>
    obtain ⟨apart, separated⟩ := List.isChain_cons.mp separated
    have ends : lexeme.isNatural = true → _ := fun natural =>
      spells.ends fun other first => apart other first natural
    have read := lexeme.next_text ends
    rw [← Token.next_blank blanks, ← List.append_assoc, ← Utf8.encode_append,
      ← Utf8.encode_append] at read
    rw [foldTokens_next state read, List.map_cons, List.foldlM_cons]
    exact congrArg _ (funext fun state => inductionHypothesis separated state)

end Chip8.Json
