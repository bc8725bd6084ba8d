/-!
# Settings

Machines of this kind disagree on a handful of instructions. Each point of
disagreement is a switch, and with the pace of the timers and the random seed
they make up the settings of a machine.
-/

namespace Chip8

/-- When the delay and sound timers count down. -/
inductive TimerMode where
  /-- Once for each executed instruction. -/
  | perTick
  /-- At a rate in beats per second of real time. -/
  | clocked (hz : UInt32)
  deriving DecidableEq, Repr

/-- The choices a machine is built with; each has a default. -/
structure Settings where
  /-- The shifts `8XY6` and `8XYE` read VY instead of VX. -/
  shiftUsesVy : Bool := false
  /-- `FX55` and `FX65` move V0 to VX, instead of stopping before VX. -/
  loadStoreInclusive : Bool := false
  /-- `FX55` and `FX65` leave the index register past the last byte moved. -/
  loadStoreIncrementsIndex : Bool := false
  /-- `8XY5` and `8XY7` set VF when the operands are equal. -/
  borrowFlagOnEqual : Bool := false
  /-- The pace of the timers. -/
  timers : TimerMode := .perTick
  /-- The seed of the random stream; without one it cannot be foretold. -/
  seed : Option UInt64 := none
  deriving DecidableEq, Repr

namespace Settings

/-- The settings of the first machine of this kind: every switch is on. -/
def legacy : Settings :=
  { shiftUsesVy := true
    loadStoreInclusive := true
    loadStoreIncrementsIndex := true
    borrowFlagOnEqual := true }

end Settings

end Chip8
