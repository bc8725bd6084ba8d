import Chip8.Json.Numeral

/-!
# Tokens

A text is a sequence of tokens with blanks between them. A token that is not
well-formed keeps its problem: whether that problem counts is for the reader to
say, since at some places any token of the wrong kind is refused at sight. Nothing
is read behind a token that even a lax reader refuses.
-/

namespace Chip8.Json

/-- The three literal words. -/
inductive Word where
  | true
  | false
  | null
  deriving DecidableEq, Repr

/-- A token. Numbers and quoted texts carry the outcome for an exact reader, then
the one for a lax reader. -/
inductive Token where
  | openArray
  | closeArray
  | openObject
  | closeObject
  | comma
  | colon
  | word (value : Except Problem Word)
  | number (value : Except Problem Number) (passed : Except Problem Unit)
  | text (value : Except Problem (List UInt8)) (passed : Except Problem Unit)
  /-- A byte that begins no token. -/
  | stray

/-- Blank, tab, line feed and carriage return. -/
def isBlank (byte : UInt8) : Bool :=
  byte == 0x20 || byte == 0x09 || byte == 0x0A || byte == 0x0D

/-- Forget a value and keep whether there was one. -/
def outcome {α : Type} : Except Problem α → Except Problem Unit
  | .ok _ => .ok ()
  | .error problem => .error problem

namespace Word

/-- Take the expected letters of a word, and return what follows them. -/
def letters : List UInt8 → List UInt8 → Except Problem (List UInt8)
  | [], rest => .ok rest
  | _ :: _, [] => .error .truncated
  | letter :: expected, byte :: rest =>
    if byte = letter then letters expected rest else .error .malformed

/-- The letters of a word leave no more bytes than there were. -/
theorem letters_length {expected bytes rest : List UInt8}
    (read : letters expected bytes = .ok rest) : rest.length ≤ bytes.length := by
  induction expected generalizing bytes with
  | nil => simp_all [letters]
  | cons letter expected induction =>
    cases bytes with
    | nil => simp [letters] at read
    | cons byte bytes =>
      unfold letters at read
      split at read
      · exact Nat.le_succ_of_le (induction read)
      · simp at read

end Word

namespace Token

/-- A word whose first letter has been taken. -/
def takeWord (word : Word) (expected : String) (bytes : List UInt8) : Token × List UInt8 :=
  match Word.letters (Utf8.encode expected) bytes with
  | .ok rest => (.word (.ok word), rest)
  | .error problem => (.word (.error problem), [])

/-- A number that begins with a sign or a digit. -/
def takeNumber (bytes : List UInt8) : Token × List UInt8 :=
  match Numeral.scan bytes with
  | .ok (numeral, rest) => (.number numeral.value (.ok ()), rest)
  | .error gap => (.number (.error (gap.problem .exact)) (.error (gap.problem .lax)), [])

/-- A quoted text whose opening quote has been taken. -/
def takeText (bytes : List UInt8) : Token × List UInt8 :=
  let exact := (Text.Scan.start.run .exact bytes).map Prod.fst
  match Text.Scan.start.run .lax bytes with
  | .ok (_, rest) => (.text exact (.ok ()), rest)
  | .error problem => (.text exact (.error problem), [])

/-- The tokens of a single byte. -/
def punctuation : List (UInt8 × Token) :=
  [ (0x5B, .openArray), (0x5D, .closeArray), (0x7B, .openObject), (0x7D, .closeObject),
    (0x2C, .comma), (0x3A, .colon) ]

/-- The words by their first letter, with the letters that must follow. -/
def words : List (UInt8 × Word × String) :=
  [(0x74, .true, "rue"), (0x66, .false, "alse"), (0x6E, .null, "ull")]

/-- The token that begins with a byte, and what follows it. -/
def take (byte : UInt8) (rest : List UInt8) : Token × List UInt8 :=
  match punctuation.lookup byte, words.lookup byte with
  | some token, _ => (token, rest)
  | none, some (value, expected) => takeWord value expected rest
  | none, none =>
    if byte = 0x22 then takeText rest
    else if byte = 0x2D ∨ Numeral.isDigit byte then takeNumber (byte :: rest)
    else (.stray, rest)

/-- The first token of a text behind its blanks, and what follows it. -/
def next (bytes : List UInt8) : Option (Token × List UInt8) :=
  match bytes.dropWhile isBlank with
  | [] => none
  | byte :: rest => some (take byte rest)

/-- A token takes at least its first byte. -/
theorem take_length (byte : UInt8) (rest : List UInt8) :
    (take byte rest).2.length ≤ rest.length := by
  have word (word : Word) (expected : String) :
      (takeWord word expected rest).2.length ≤ rest.length := by
    unfold takeWord
    split
    · next read => exact Word.letters_length read
    · simp
  have number : (takeNumber (byte :: rest)).2.length ≤ rest.length := by
    unfold takeNumber
    split
    · next read => exact Nat.le_of_lt_succ (Numeral.scan_length read)
    · simp
  have text : (takeText rest).2.length ≤ rest.length := by
    unfold takeText
    dsimp only
    split
    · next read => exact Text.Scan.run_length read
    · simp
  unfold take
  split
  · exact Nat.le_refl _
  · exact word _ _
  · split
    · exact text
    · split
      · exact number
      · exact Nat.le_refl _

/-- Every token shortens the text. -/
theorem next_length {bytes rest : List UInt8} {token : Token}
    (read : next bytes = some (token, rest)) : rest.length < bytes.length := by
  have blanks := (List.dropWhile_sublist (l := bytes) isBlank).length_le
  unfold next at read
  split at read
  · simp at read
  · next byte rest' found =>
    have taken := take_length byte rest'
    rw [found, List.length_cons] at blanks
    simp only [Option.some.injEq] at read
    rw [read] at taken
    exact Nat.lt_of_lt_of_le (Nat.lt_succ_of_le taken) blanks

/-- The problem of a token that stands where a value of another kind is required.
A number or text is read to its end first, a bracket is refused at sight. -/
def mismatch : Token → Problem
  | word (.error problem) | number (.error problem) _ | text (.error problem) _ => problem
  | word (.ok _) | number (.ok _) _ | text (.ok _) _ => .mismatched
  | openArray | openObject => .mismatched
  | closeArray | closeObject | comma | colon | stray => .malformed

end Token

/-- Feed the tokens of a text to a reader, up to the first problem. -/
def foldTokens {σ : Type} (step : σ → Token → Except Problem σ) (state : σ)
    (bytes : List UInt8) : Except Problem σ :=
  match _read : Token.next bytes with
  | none => .ok state
  | some (token, rest) =>
    match step state token with
    | .error problem => .error problem
    | .ok state => foldTokens step state rest
  termination_by bytes.length
  decreasing_by exact Token.next_length _read

end Chip8.Json
