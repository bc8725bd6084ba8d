import Chip8.Error
import Chip8.Settings.TimerReader

/-!
# Reading settings

Settings are a JSON object with any of the six fields in any order, or a list of
values in the order of the fields. What is left out keeps its default. Members of
other names are passed over; a field named twice is refused at its second name.
-/

namespace Chip8.Settings

open Json

/-- The fields of the settings. -/
inductive Field where
  | shiftUsesVy
  | loadStoreInclusive
  | loadStoreIncrementsIndex
  | borrowFlagOnEqual
  | timers
  | seed
  deriving DecidableEq, Repr

namespace Field

/-- All fields, in the order of a list of values. -/
def all : List Field :=
  [shiftUsesVy, loadStoreInclusive, loadStoreIncrementsIndex, borrowFlagOnEqual, timers, seed]

/-- The name of a field in the text. -/
def name : Field → String
  | shiftUsesVy => "shift_uses_vy"
  | loadStoreInclusive => "load_store_inclusive"
  | loadStoreIncrementsIndex => "load_store_increments_i"
  | borrowFlagOnEqual => "borrow_flag_on_equal"
  | timers => "timers"
  | seed => "rng_seed"

/-- The field of a name. -/
def ofBytes (name : List UInt8) : Option Field :=
  all.find? fun field => Utf8.encode field.name = name

end Field

/-- What the reader expects next. -/
inductive Place where
  /-- The settings. -/
  | top
  /-- The first name of the object, or its end. -/
  | firstName
  | name
  /-- The colon behind a name; `none` for a member of another name. -/
  | colon (field : Option Field)
  /-- The first value of the list, or its end. -/
  | firstItem
  | value (field : Field)
  /-- The rest of the pace of the timers. -/
  | pace (pace : Pace)
  /-- A member that is passed over. -/
  | passing (walk : Walk)
  /-- A comma or the end. -/
  | separator
  /-- The end of the text. -/
  | finished
  deriving DecidableEq, Repr

/-- Settings in progress: what is known of them, the fields named so far and, in a
list, the fields still to come. -/
structure Draft where
  settings : Settings
  named : List Field
  upcoming : Option (List Field)
  place : Place
  deriving DecidableEq, Repr

namespace Draft

/-- Before the text. -/
def start : Draft :=
  ⟨{}, [], none, .top⟩

/-- A truth value. -/
def truth : Token → Except Problem Bool
  | .word (.ok .true) => .ok true
  | .word (.ok .false) => .ok false
  | token => .error token.mismatch

/-- A seed: a natural number below 2⁶⁴, or none. -/
def seedOf : Token → Except Problem (Option UInt64)
  | .word (.ok .null) => .ok none
  | .number (.ok (.natural value)) _ => .ok (some (UInt64.ofNat value))
  | token => .error token.mismatch

/-- The settings with a field known, at the end of its value. -/
def known (draft : Draft) (settings : Settings) : Draft :=
  { draft with settings := settings, place := .separator }

/-- Take the value of a field, or its first token. -/
def takeValue (draft : Draft) (field : Field) (token : Token) : Except Problem Draft :=
  let settings := draft.settings
  match field with
  | .shiftUsesVy =>
    (truth token).map fun on => draft.known { settings with shiftUsesVy := on }
  | .loadStoreInclusive =>
    (truth token).map fun on => draft.known { settings with loadStoreInclusive := on }
  | .loadStoreIncrementsIndex =>
    (truth token).map fun on => draft.known { settings with loadStoreIncrementsIndex := on }
  | .borrowFlagOnEqual =>
    (truth token).map fun on => draft.known { settings with borrowFlagOnEqual := on }
  | .timers => (Pace.start token).map fun pace => { draft with place := .pace pace }
  | .seed => (seedOf token).map fun seed => draft.known { settings with seed := seed }

/-- Take the name of a member. -/
def takeName (draft : Draft) (token : Token) : Except Problem Draft :=
  match token with
  | .text (.ok name) _ =>
    match Field.ofBytes name with
    | none => .ok { draft with place := .colon none }
    | some field =>
      if field ∈ draft.named then .error .mismatched
      else .ok { draft with named := field :: draft.named, place := .colon (some field) }
  | .text (.error problem) _ => .error problem
  | _ => .error .malformed

/-- Take a value of the list, which must have a field left for it. -/
def takeItem (draft : Draft) : Except Problem Draft :=
  match draft.upcoming with
  | some (field :: rest) => .ok { draft with upcoming := some rest, place := .value field }
  | _ => .error .malformed

/-- Take a comma or the end. -/
def takeSeparator (draft : Draft) (token : Token) : Except Problem Draft :=
  match draft.upcoming, token with
  | none, .comma => .ok { draft with place := .name }
  | some _, .comma => draft.takeItem
  | none, .closeObject | some _, .closeArray => .ok { draft with place := .finished }
  | _, _ => .error .malformed

/-- Take one token. -/
def step (draft : Draft) (token : Token) : Except Problem Draft :=
  match draft.place, token with
  | .top, .openObject => .ok { draft with place := .firstName }
  | .top, .openArray => .ok { draft with upcoming := some Field.all.tail, place := .firstItem }
  | .top, token => .error token.mismatch
  | .firstName, .closeObject => .ok { draft with place := .finished }
  | .firstName, token | .name, token => draft.takeName token
  | .colon (some field), .colon => .ok { draft with place := .value field }
  | .colon none, .colon => .ok { draft with place := .passing .start }
  | .colon _, _ => .error .malformed
  | .firstItem, .closeArray => .ok { draft with place := .finished }
  | .firstItem, token => draft.takeValue .shiftUsesVy token
  | .value field, token => draft.takeValue field token
  | .pace pace, token =>
    match pace.step token with
    | .error problem => .error problem
    | .ok (.more pace) => .ok { draft with place := .pace pace }
    | .ok (.done mode) => .ok (draft.known { draft.settings with timers := mode })
  | .passing walk, token =>
    match walk.step .lax none token with
    | .error problem => .error problem
    | .ok (.more walk) => .ok { draft with place := .passing walk }
    | .ok (.done ()) => .ok { draft with place := .separator }
  | .separator, token => draft.takeSeparator token
  | .finished, _ => .error .malformed

/-- The settings at the end of the text. -/
def finish (draft : Draft) : Except Problem Settings :=
  if draft.place = .finished then .ok draft.settings else .error .truncated

end Draft

/-- The settings that a text stands for. -/
def ofBytes (bytes : List UInt8) : Except Problem Settings := do
  let draft ← foldTokens Draft.step .start bytes
  draft.finish

/-- The settings that a string stands for. -/
def parse (text : String) : Except Error Settings :=
  match ofBytes (Utf8.encode text) with
  | .ok settings => .ok settings
  | .error problem => .error (.invalidSettings problem)

/-- The settings that a file holds. A directory can be opened, but not read. -/
def ofFile (file : FileContent) : Except Error Settings :=
  match file with
  | .ok bytes =>
    match ofBytes bytes with
    | .ok settings => .ok settings
    | .error problem => .error (.invalidSettings problem)
  | .error .isDirectory => .error .unreadableSettings
  | .error cause => .error (.unreadable cause)

end Chip8.Settings
