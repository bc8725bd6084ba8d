import Chip8.Json.Walk
import Chip8.Settings.Basic

/-!
# Reading the pace of the timers

The pace is an object with a `mode` and, for clocked timers, a rate `hz`, in any
order and among any other members; or a list of the mode and the rate. The mode is
judged as soon as it is met. Whether the rate fits is judged at the closing bracket,
so that a problem further on in the text comes first.
-/

namespace Chip8.Settings

open Json

/-- The two modes. -/
inductive Mode where
  | perTick
  | clocked
  deriving DecidableEq, Repr

/-- The mode of a name. -/
def Mode.ofBytes (name : List UInt8) : Option Mode :=
  if name = Utf8.encode "per_tick" then some .perTick
  else if name = Utf8.encode "clocked" then some .clocked
  else none

/-- The members of a pace. -/
inductive Member where
  | mode
  | rate
  | other
  deriving DecidableEq, Repr

/-- The member of a name. -/
def Member.ofBytes (name : List UInt8) : Member :=
  if name = Utf8.encode "mode" then .mode
  else if name = Utf8.encode "hz" then .rate
  else .other

/-- What the reader of a pace expects next. -/
inductive PacePlace where
  /-- The first name of the object, or its end. -/
  | firstName
  | name
  | colon (member : Member)
  /-- The mode, or in an empty list its end. -/
  | firstItem
  | mode
  /-- A value other than the mode. -/
  | value (member : Member)
  /-- The rest of such a value. -/
  | inside (walk : Walk)
  /-- A comma or the end of the pace. -/
  | separator
  deriving DecidableEq, Repr

/-- A pace in progress: its mode, the rates met so far (`none` for one that is no
natural number) and whether it is a list. -/
structure Pace where
  mode : Option Mode
  rates : List (Option Nat)
  isList : Bool
  place : PacePlace
  deriving DecidableEq, Repr

namespace Pace

/-- The most brackets that may be open inside a pace. With those of the settings and
of the pace itself no more than 127 are ever open. -/
def room : Nat := 125

/-- Open a pace. -/
def start : Token → Except Problem Pace
  | .openObject => .ok ⟨none, [], false, .firstName⟩
  | .openArray => .ok ⟨none, [], true, .firstItem⟩
  | token => .error token.mismatch

/-- The single rate of clocked timers. -/
def clockedRate : List (Option Nat) → Except Problem TimerMode
  | [some hz] => if hz < 0x100000000 then .ok (.clocked (UInt32.ofNat hz)) else .error .mismatched
  | _ => .error .mismatched

/-- The pace at its closing bracket. An object may name a rate that its mode does not
need; a list must not. -/
def finish (pace : Pace) : Except Problem TimerMode :=
  match pace.mode with
  | none => .error .mismatched
  | some .perTick =>
    if pace.isList ∧ pace.rates ≠ [] then .error .mismatched else .ok .perTick
  | some .clocked => clockedRate pace.rates

/-- Take the mode. -/
def takeMode (pace : Pace) (token : Token) : Except Problem Pace :=
  match token with
  | .text (.ok name) _ =>
    match Mode.ofBytes name with
    | some mode => .ok { pace with mode := some mode, place := .separator }
    | none => .error .mismatched
  | token => .error token.mismatch

/-- Take the name of a member; a second mode is refused at its name. -/
def takeName (pace : Pace) (token : Token) : Except Problem Pace :=
  match token with
  | .text (.ok name) _ =>
    let member := Member.ofBytes name
    if member = .mode ∧ pace.mode.isSome then .error .mismatched
    else .ok { pace with place := .colon member }
  | .text (.error problem) _ => .error problem
  | _ => .error .malformed

/-- A natural number, if the token is one. -/
def naturalOf : Token → Option Nat
  | .number (.ok (.natural value)) _ => some value
  | _ => none

/-- Follow a value that is not the mode. -/
def follow (pace : Pace) (walk : Walk) (token : Token) : Except Problem Pace :=
  match walk.step .exact (some room) token with
  | .error problem => .error problem
  | .ok (.more walk) => .ok { pace with place := .inside walk }
  | .ok (.done ()) => .ok { pace with place := .separator }

/-- Note a rate at its first token. -/
def note (pace : Pace) (member : Member) (token : Token) : Pace :=
  if member = .rate then { pace with rates := pace.rates ++ [naturalOf token] } else pace

/-- Take a comma or the end. -/
def takeSeparator (pace : Pace) (token : Token) : Except Problem (Progress Pace TimerMode) :=
  match pace.isList, token with
  | false, .comma => .ok (.more { pace with place := .name })
  | true, .comma => .ok (.more { pace with place := .value .rate })
  | false, .closeObject | true, .closeArray => pace.finish.map .done
  | _, _ => .error .malformed

/-- Take one token. -/
def step (pace : Pace) (token : Token) : Except Problem (Progress Pace TimerMode) :=
  match pace.place, token with
  | .firstName, .closeObject => pace.finish.map .done
  | .firstName, token | .name, token => (pace.takeName token).map .more
  | .colon .mode, .colon => .ok (.more { pace with place := .mode })
  | .colon member, .colon => .ok (.more { pace with place := .value member })
  | .colon _, _ => .error .malformed
  | .firstItem, .closeArray => .error .mismatched
  | .firstItem, token | .mode, token => (pace.takeMode token).map .more
  | .value member, token => ((pace.note member token).follow .start token).map .more
  | .inside walk, token => (pace.follow walk token).map .more
  | .separator, token => pace.takeSeparator token

end Pace

end Chip8.Settings
