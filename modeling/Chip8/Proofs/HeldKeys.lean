import Mathlib.Data.List.FinRange
import Chip8.Proofs.Lockstep
import Chip8.Proofs.Waiting
import Chip8.Proofs.KeyWait

/-!
# Held keys

A keyboard tells a program which keys are held in two ways: it answers for a single key, and
it lists the held ones. The list may be in any order and may name a key repeatedly. A cycle
asks for single keys in the two skips and for the lowest listed key in a key wait, at once or
when the wait ends, so it cannot tell keyboards apart that answer alike and list the same keys.
Two runs under such keyboards are the same run.
-/

namespace Chip8

namespace Key

/-- The lower of two keys is one of them. -/
theorem lower_eq_or (first second : Key) :
    lower first second = first ∨ lower first second = second :=
  ite_eq_or_eq _ _ _

/-- The lower of two keys is above neither. -/
theorem lower_le (first second : Key) :
    lower first second ≤ first ∧ lower first second ≤ second := by
  unfold lower
  split
  case isTrue below => exact ⟨Fin.le_refl first, below⟩
  case isFalse above => exact ⟨Nat.le_of_not_le above, Fin.le_refl second⟩

/-- Going through a list, and always keeping the lower key, ends at one of the keys passed, and
none of them is below it. -/
theorem foldl_lower (first : Key) (rest : List Key) :
    rest.foldl lower first ∈ first :: rest ∧
      ∀ other ∈ first :: rest, rest.foldl lower first ≤ other := by
  induction rest generalizing first with
  | nil => simp
  | cons next rest inductionHypothesis =>
    obtain ⟨met, least⟩ := inductionHypothesis (lower first next)
    obtain ⟨belowFirst, belowNext⟩ := lower_le first next
    have kept := least _ List.mem_cons_self
    simp only [List.foldl_cons, List.forall_mem_cons]
    refine ⟨?_, Fin.le_trans kept belowFirst, Fin.le_trans kept belowNext, ?_⟩
    · rcases List.mem_cons.mp met with same | later
      · rw [same]
        rcases lower_eq_or first next with is | is <;> simp [is]
      · exact .tail _ (.tail _ later)
    · intro other member
      exact least other (.tail _ member)

end Key

namespace Keyboard

/-- Both keyboards answer alike for every key and list the same keys. -/
structure SameKeys (first second : Keyboard) : Prop where
  isDown : ∀ key, first.isDown key = second.isDown key
  held : ∀ key, key ∈ first.held ↔ key ∈ second.held

/-- Every keyboard reports the same keys as itself. -/
theorem SameKeys.refl (keyboard : Keyboard) : keyboard.SameKeys keyboard :=
  ⟨fun _ => rfl, fun _ => Iff.rfl⟩

/-- The lowest held key is the listed key that no listed key is below. -/
theorem lowest_eq_some_iff {keyboard : Keyboard} {key : Key} :
    keyboard.lowest = some key ↔ key ∈ keyboard.held ∧ ∀ other ∈ keyboard.held, key ≤ other := by
  rw [lowest]
  cases keyboard.held with
  | nil => simp
  | cons first rest =>
    obtain ⟨listed, least⟩ := Key.foldl_lower first rest
    constructor
    · rintro ⟨⟩
      exact ⟨listed, least⟩
    · rintro ⟨member, below⟩
      exact congrArg some (Fin.le_antisymm (least key member) (below _ listed))

/-- The lowest held key depends on which keys are listed, not on how: it is the one listed key
that no listed key is below. -/
theorem SameKeys.lowest {first second : Keyboard} (same : first.SameKeys second) :
    first.lowest = second.lowest := by
  apply Option.ext
  intro key
  simp only [lowest_eq_some_iff, same.held]

end Keyboard

/-- The same action, except that the keyboard of a cycle need only report the same keys. -/
inductive Action.SameKeys : Action → Action → Prop where
  | cycle {first second : Keyboard} (now : Readings) (same : first.SameKeys second) :
      SameKeys (.cycle first now) (.cycle second now)
  | load (program : List UInt8) : SameKeys (.load program) (.load program)
  | pause : SameKeys .pause .pause
  | present : SameKeys .present .present

namespace Machine

/-- An instruction does the same under keyboards that report the same keys. -/
theorem execute_sameKeys {first second : Keyboard} (same : first.SameKeys second)
    (machine : Machine) (instruction : Instruction) :
    machine.execute instruction first = machine.execute instruction second := by
  unfold execute
  cases instruction.command <;> simp only [same.lowest, same.isDown]

/-- A cycle goes the same way under keyboards that report the same keys. -/
theorem cycle_sameKeys {first second : Keyboard} (same : first.SameKeys second)
    (machine : Machine) (now : Readings) : machine.cycle first now = machine.cycle second now := by
  simp only [cycle, resume, perform, attempt, same.lowest, execute_sameKeys same]

/-- Under the same keys an action gives the same answer and leaves the same machine. -/
theorem act_sameKeys {action other : Action} (same : action.SameKeys other) (machine : Machine) :
    Moment.Matches (· = ·) (machine.act action) (machine.act other) := by
  cases same with
  | cycle now keys => simp only [act, cycle_sameKeys keys]; exact ⟨rfl, rfl⟩
  | load | pause | present => exact ⟨rfl, rfl⟩

/-- Under the same keys two runs of a machine go through the same answers and machines. -/
theorem history_sameKeys {actions others : List Action}
    (same : List.Forall₂ Action.SameKeys actions others) (machine : Machine) :
    List.Forall₂ (Moment.Matches (· = ·)) (machine.history actions) (machine.history others) := by
  induction same generalizing machine with
  | nil => exact .nil
  | cons first _ inductionHypothesis =>
    have matched := act_sameKeys first machine
    refine .cons matched ?_
    rw [← matched.after]
    exact inductionHypothesis _

/-- The row of the key waits. -/
theorem awaitKey_listed :
    (⟨.awaitKey, 0xF0FF, 0xF00A, [.x]⟩ : Row) ∈ instructionTable := by decide

/-- A completed `FX0A` stores the lowest held key, whether or not the machine has waited. -/
theorem act_storesKey {machine : Machine} {action : Action} {instruction : Instruction}
    (sound : machine.WaitsDecoded) (executed : (machine.act action).executed = some instruction)
    (bits : instruction.opcode &&& 0xF0FF = 0xF00A) :
    ∃ keyboard now key, action = .cycle keyboard now ∧ keyboard.lowest = some key ∧
      (machine.act action).after.reg (registerX instruction.opcode) = key.toByte := by
  cases action with
  | cycle keyboard now =>
    obtain ⟨transition, course, acted⟩ := act_course machine keyboard now
    rw [acted] at executed ⊢
    cases course with
    | halted | waiting | unknown | refused | blocked => cases executed
    | resumed awaited key running waits pressed =>
      obtain rfl : awaited = instruction := Option.some.inj executed
      obtain ⟨decoded, awaits⟩ := sound awaited waits
      have register := Instruction.x_of_decode awaitKey_listed rfl decoded awaits
      refine ⟨keyboard, now, key, rfl, pressed, ?_⟩
      rw [reg, (sameCore_finish _ now.counted .next).registers, ← register]
      exact reg_setReg machine awaited.x key.toByte
    | executed fetched after flow running free decoded done moves =>
      obtain rfl : fetched = instruction := Option.some.inj executed
      have opcode := Instruction.opcode_of_decode decoded
      have awaits : fetched.command = .awaitKey :=
        (Instruction.command_iff awaitKey_listed decoded).mpr (opcode ▸ bits)
      have register := Instruction.x_of_decode awaitKey_listed rfl decoded awaits
      obtain ⟨key, pressed, rfl⟩ := execute_awaitKey done awaits moves
      refine ⟨keyboard, now, key, rfl, pressed, ?_⟩
      rw [reg, (sameCore_finish _ now.counted flow).registers, opcode, ← register]
      exact reg_setReg machine fetched.x key.toByte
  | load program => rw [Moment.executed, answer_load] at executed; cases executed
  | pause | present => cases executed

/-- Only the set of held keys matters. Take any machine and two sequences of actions that
differ at most in how the keyboards of the cycles list their keys: in each place both answer
alike for every key, and their lists hold the same keys, in whatever order and however often.
Then both runs give the same answers and go through the same machines, whatever the cycles read
from the clock, as long as both runs read the same. And the value that a
completed `FX0A` stores in any run from its construction, at once or after a wait, is the
lowest key of the list.

Proof: the key found by going through a list is the one listed key that no listed key is below,
so it depends on the set of listed keys only, and cycles see no more of the list than that key.
So a cycle is the same under both keyboards, and so is a run by induction on its actions. -/
theorem held_keys_decide :
    (∀ (machine : Machine) (actions others : List Action),
      List.Forall₂ Action.SameKeys actions others →
      List.Forall₂ (Moment.Matches (· = ·)) (machine.history actions) (machine.history others)) ∧
    ∀ (settings : Settings) (start : Instant) (entropy : Random.StreamKey) (actions : List Action),
      ∀ moment ∈ (boot settings start entropy).history actions, ∀ instruction,
        moment.executed = some instruction → instruction.opcode &&& 0xF0FF = 0xF00A →
        ∃ keyboard now key, moment.action = .cycle keyboard now ∧
          key ∈ keyboard.held ∧ (∀ other ∈ keyboard.held, key ≤ other) ∧
          moment.after.reg (registerX instruction.opcode) = key.toByte := by
  constructor
  · intro machine actions others same
    exact history_sameKeys same machine
  · intro settings start entropy actions moment member instruction executed bits
    obtain ⟨done, action, rfl⟩ := act_of_mem_history member
    have sound := run_waitsDecoded settings start entropy done
    obtain ⟨keyboard, now, key, cycle, lowest, stored⟩ := act_storesKey sound executed bits
    obtain ⟨listed, least⟩ := Keyboard.lowest_eq_some_iff.mp lowest
    exact ⟨keyboard, now, key, (act_action _ action).trans cycle, listed, least, stored⟩

/-- Load `F10A`, a key wait, with `E19E` behind it; then a cycle without keys, one with three
keys listed in some order while the clock moves, and one with the lowest of them. -/
def underKeys (listed lowest : List Key) : List Action :=
  [.load [0xF1, 0x0A, 0xE1, 0x9E], .cycle .idle (.still 0), .cycle (.ofList listed) ⟨1000, 1040⟩,
    .cycle (.ofList lowest) (.still 2000)]

/-- The wait ends with key 3, although it is listed neither first nor once, and the runs under
both lists are the same, the skip on that key included. -/
theorem order_of_keys_unseen :
    let machine := boot { timers := .clocked 1000000000 } 0 (Vector.replicate 8 0)
    let actions := underKeys [7, 3, 5, 3] [3, 3]
    let others := underKeys [5, 7, 3] [3]
    let moment := (machine.run (actions.take 2)).act (.cycle (.ofList [7, 3, 5, 3]) ⟨1000, 1040⟩)
    List.Forall₂ Action.SameKeys actions others ∧
      List.Forall₂ (Moment.Matches (· = ·)) (machine.history actions) (machine.history others) ∧
      moment.executed = some ⟨.awaitKey, 0xF10A, 1, 0, 0⟩ ∧
      moment.after.reg 1 = 3 := by
  intro machine actions others moment
  have listed : (Keyboard.ofList [7, 3, 5, 3]).SameKeys (.ofList [5, 7, 3]) :=
    ⟨by decide, by decide⟩
  have repeated : (Keyboard.ofList [3, 3]).SameKeys (.ofList [3]) := ⟨by decide, by decide⟩
  have same : List.Forall₂ Action.SameKeys actions others :=
    .cons (.load _) (.cons (.cycle _ (.refl .idle))
      (.cons (.cycle _ listed) (.cons (.cycle _ repeated) .nil)))
  obtain ⟨matched, stores⟩ := held_keys_decide
  have executed : moment.executed = some ⟨.awaitKey, 0xF10A, 1, 0, 0⟩ := by decide +kernel
  have member : moment ∈ machine.history actions := .tail _ (.tail _ (.head _))
  obtain ⟨keyboard, now, key, cycle, held, least, stored⟩ :=
    stores _ 0 (Vector.replicate 8 0) actions moment member _ executed rfl
  obtain rfl : keyboard = .ofList [7, 3, 5, 3] := by
    cases cycle
    rfl
  have lowest : ∀ key ∈ (Keyboard.ofList [7, 3, 5, 3]).held, 3 ≤ key := by decide
  obtain rfl : key = 3 := le_antisymm (least 3 (by decide)) (lowest key held)
  exact ⟨same, matched machine actions others same, executed, stored⟩

end Machine

end Chip8
