import Chip8.Json.Token

/-!
# Passing over values

A value whose content is not needed is followed token by token to its end. The walk
remembers which brackets are open. An exact walk refuses what a reader of the value
would refuse, a lax walk only what breaks the outline of the text.
-/

namespace Chip8.Json

/-- Whether a reader goes on or has its value. -/
inductive Progress (σ α : Type) where
  | more (state : σ)
  | done (value : α)

/-- An open bracket. -/
inductive Bracket where
  | array
  | object
  deriving DecidableEq, Repr

/-- What a walk expects next. -/
inductive Expected where
  | value
  /-- The first value of an array, or its end. -/
  | firstItem
  /-- The first name of an object, or its end. -/
  | firstName
  | name
  | colon
  /-- A comma, or the end of the innermost bracket. -/
  | separator
  deriving DecidableEq, Repr

/-- A walk in progress; the innermost bracket comes first. -/
structure Walk where
  brackets : List Bracket
  expected : Expected
  deriving DecidableEq, Repr

namespace Walk

/-- Before the value. -/
def start : Walk :=
  ⟨[], .value⟩

/-- A value has ended: the walk is over unless a bracket is open. -/
def ended (brackets : List Bracket) : Progress Walk Unit :=
  match brackets with
  | [] => .done ()
  | _ :: _ => .more ⟨brackets, .separator⟩

/-- The outcome of a number, text or word. -/
def scalar (rigor : Rigor) : Token → Except Problem Unit
  | .word value => outcome value
  | .number value passed | .text value passed =>
    match rigor with
    | .exact => outcome value
    | .lax => passed
  | _ => .error .malformed

/-- Open a bracket, unless as many are open as there is room for. -/
def enter (walk : Walk) (room : Option Nat) (bracket : Bracket) (expected : Expected) :
    Except Problem (Progress Walk Unit) :=
  if room.all (walk.brackets.length < ·) then
    .ok (.more ⟨bracket :: walk.brackets, expected⟩)
  else .error .malformed

/-- Take the first token of a value. -/
def takeValue (walk : Walk) (rigor : Rigor) (room : Option Nat) (token : Token) :
    Except Problem (Progress Walk Unit) :=
  match token with
  | .openArray => walk.enter room .array .firstItem
  | .openObject => walk.enter room .object .firstName
  | token => (scalar rigor token).map fun _ => ended walk.brackets

/-- Take the name of a member. -/
def takeName (walk : Walk) (rigor : Rigor) (token : Token) :
    Except Problem (Progress Walk Unit) :=
  match token with
  | .text value passed =>
    (scalar rigor (.text value passed)).map fun _ => .more { walk with expected := .colon }
  | _ => .error .malformed

/-- Take one token. -/
def step (rigor : Rigor) (room : Option Nat) (walk : Walk) (token : Token) :
    Except Problem (Progress Walk Unit) :=
  match walk.expected, token with
  | .value, token => walk.takeValue rigor room token
  | .firstItem, .closeArray => .ok (ended walk.brackets.tail)
  | .firstItem, token => walk.takeValue rigor room token
  | .firstName, .closeObject => .ok (ended walk.brackets.tail)
  | .firstName, token | .name, token => walk.takeName rigor token
  | .colon, .colon => .ok (.more { walk with expected := .value })
  | .colon, _ => .error .malformed
  | .separator, token =>
    match walk.brackets, token with
    | .array :: _, .comma => .ok (.more { walk with expected := .value })
    | .array :: outer, .closeArray => .ok (ended outer)
    | .object :: _, .comma => .ok (.more { walk with expected := .name })
    | .object :: outer, .closeObject => .ok (ended outer)
    | _, _ => .error .malformed

end Walk

end Chip8.Json
