import Chip8.Settings.Reader

/-!
# Writing settings

Settings are written as a JSON object with all six fields in their order and
without blanks.
-/

namespace Chip8.Settings

/-- A truth value as text. -/
def truthText (value : Bool) : String :=
  if value then "true" else "false"

/-- The pace of the timers as text. -/
def paceText : TimerMode → String
  | .perTick => "\x7b\"mode\":\"per_tick\"\x7d"
  | .clocked hz => "\x7b\"mode\":\"clocked\",\"hz\":" ++ Decimal.numeral hz.toNat ++ "\x7d"

/-- A seed as text. -/
def seedText : Option UInt64 → String
  | none => "null"
  | some seed => Decimal.numeral seed.toNat

/-- The value of a field as text. -/
def valueText (settings : Settings) : Field → String
  | .shiftUsesVy => truthText settings.shiftUsesVy
  | .loadStoreInclusive => truthText settings.loadStoreInclusive
  | .loadStoreIncrementsIndex => truthText settings.loadStoreIncrementsIndex
  | .borrowFlagOnEqual => truthText settings.borrowFlagOnEqual
  | .timers => paceText settings.timers
  | .seed => seedText settings.seed

/-- The name and value of a field as text. -/
def memberText (settings : Settings) (field : Field) : String :=
  "\"" ++ field.name ++ "\":" ++ settings.valueText field

/-- The settings as text. -/
def toJson (settings : Settings) : String :=
  "\x7b" ++ ",".intercalate (Field.all.map settings.memberText) ++ "\x7d"

end Chip8.Settings
