import Mathlib.Data.List.Induction
import Chip8.Proofs.Cycle
import Chip8.Proofs.Screen

/-!
# Redrawing by touched cells

A host need not copy the whole screen at each present. It may start from a dark
picture and overwrite only the cells listed as touched: after every present of every
run its picture is the screen. The argument is an invariant between the screen, its
touched cells and what was last presented. Every cell whose pixel has changed since
then is touched; an instruction that changes a pixel touches its cell, and only a
present forgets the touched cells, at which the two pictures are equal again.
-/

namespace Chip8

/-- What a host shows, by column and row. -/
abbrev Picture := Nat × Nat → Bool

namespace Picture

/-- Every pixel is off. -/
def dark : Picture := fun _ => false

/-- Overwrite one cell. -/
def paint (picture : Picture) (target : Nat × Nat) (lit : Bool) : Picture :=
  fun other => if other = target then lit else picture other

/-- Overwrite the touched cells of a screen, and no others, by its pixels. -/
def redraw (picture : Picture) (screen : Screen) : Picture :=
  screen.dirtyCells.foldl
    (fun picture target => picture.paint target (screen.get target.1 target.2)) picture

/-- What a host shows that started dark and redrew each presented screen. -/
def following (screens : List Screen) : Picture :=
  screens.foldl redraw dark

/-- The pixels of the last presented screen, or darkness before the first. -/
def lastPresented (screens : List Screen) : Picture :=
  match screens.getLast? with
  | none => dark
  | some screen => fun target => screen.get target.1 target.2

/-- A follower that has seen one screen more has redrawn that screen last. -/
theorem following_append (screens : List Screen) (screen : Screen) :
    following (screens ++ [screen]) = (following screens).redraw screen := by
  simp [following]

/-- What was presented last is the last of the screens. -/
theorem lastPresented_append (screens : List Screen) (screen : Screen) :
    lastPresented (screens ++ [screen]) = fun target => screen.get target.1 target.2 := by
  simp [lastPresented]

/-- Painting listed cells by the pixels of one screen changes the listed cells only,
in whatever order and however often they are listed. -/
theorem foldl_paint (screen : Screen) (targets : List (Nat × Nat)) (picture : Picture)
    (other : Nat × Nat) :
    targets.foldl (fun picture target => picture.paint target (screen.get target.1 target.2))
        picture other =
      if other ∈ targets then screen.get other.1 other.2 else picture other := by
  induction targets generalizing picture with
  | nil => simp
  | cons target rest inductionHypothesis =>
    rw [List.foldl_cons, inductionHypothesis]
    by_cases later : other ∈ rest
    · simp [later]
    · by_cases same : other = target <;> simp [later, same, paint]

/-- A redrawn cell shows the pixel of the screen, every other cell what it showed. -/
theorem redraw_place (picture : Picture) (screen : Screen) (target : Fin 2048) :
    picture.redraw screen (Screen.place target) =
      if screen.dirty.get target then screen.pixels.get target
      else picture (Screen.place target) := by
  have listed : Screen.place target ∈ screen.dirtyCells ↔ screen.dirty.get target = true := by
    have bound : target.val < 2048 := target.isLt
    have column : (Screen.place target).1 < 64 := by simp only [Screen.place]; omega
    have row : (Screen.place target).2 < 32 := by simp only [Screen.place]; omega
    have touched := screen.mem_dirtyCells (Screen.place target).1 (Screen.place target).2
    simpa only [column, row, true_and, Screen.isDirty, Screen.cell_place] using touched
  rw [redraw, foldl_paint]
  simp only [listed, Screen.get, Screen.cell_place]

end Picture

namespace Screen

/-- Every cell whose pixel differs from a picture is touched. -/
def Covers (screen : Screen) (shown : Picture) : Prop :=
  ∀ target, screen.pixels.get target ≠ shown (place target) → screen.dirty.get target = true

/-- A toggled cell is touched, whatever its pixel; the other cells are as before. -/
theorem covers_toggle {screen : Screen} {shown : Picture} (covered : screen.Covers shown)
    (target : Fin 2048) : (screen.toggle target).Covers shown := by
  intro other changed
  rw [toggle_dirty]
  by_cases same : other = target
  · simp [same]
  · rw [toggle_pixels, if_neg same] at changed
    simpa [same] using covered other changed

/-- Drawing toggles cells one after the other, so it touches all it changes. -/
theorem covers_drawSprite {screen : Screen} {shown : Picture} (covered : screen.Covers shown)
    (x y : UInt8) (rows : List UInt8) : (screen.drawSprite x y rows).screen.Covers shown := by
  have folded (targets : List (Fin 2048)) (drawing : Drawing)
      (start : drawing.screen.Covers shown) :
      (targets.foldl Drawing.toggle drawing).screen.Covers shown := by
    induction targets generalizing drawing with
    | nil => exact start
    | cons target rest inductionHypothesis =>
      exact inductionHypothesis _ (covers_toggle start target)
  exact folded _ _ covered

/-- Clearing touches every cell. -/
theorem covers_clear (screen : Screen) (shown : Picture) : screen.clear.Covers shown := by
  intro target _
  simp [clear, Vector.get]

/-- A screen covers its own pixels, touched or not. -/
theorem covers_self (screen : Screen) :
    screen.clearDirty.Covers fun target => screen.get target.1 target.2 := by
  intro target changed
  simp [clearDirty, get] at changed

end Screen

/-- The screens a host was handed, in order. -/
def presentations (history : List Moment) : List Screen :=
  history.filterMap fun moment =>
    match moment.answer with
    | .presented screen => some screen
    | _ => none

namespace Machine

/-- Whatever a cycle does, it touches the cells it changes. -/
theorem covers_cycle (machine : Machine) (keyboard : Keyboard) (now : Readings)
    {shown : Picture} (covered : machine.screen.Covers shown) :
    (machine.cycle keyboard now).machine.screen.Covers shown := by
  generalize outcome : machine.cycle keyboard now = transition
  have course := outcome ▸ cycle_course machine keyboard now
  cases course with
  | halted | waiting | unknown | refused | blocked => exact covered
  | resumed instruction key running awaited pressed =>
    rw [(sameCore_finish _ now.counted .next).screen]
    exact covered
  | executed instruction after flow running free decoded done moves =>
    rw [(sameCore_finish after now.counted flow).screen, execute_screen done]
    split
    · exact Screen.covers_clear _ _
    · exact Screen.covers_drawSprite covered _ _ _
    · exact covered

/-- The invariant of a run: the host shows what was last presented, and the screen
has touched every cell in which it differs from that. -/
structure InStep (machine : Machine) (screens : List Screen) : Prop where
  shown : ∀ target, Picture.following screens (Screen.place target) =
    Picture.lastPresented screens (Screen.place target)
  covered : machine.screen.Covers (Picture.lastPresented screens)

/-- After a redraw the host shows the presented screen: touched cells were painted,
and in the untouched ones nothing had changed. -/
theorem redraw_exact {machine : Machine} {screens : List Screen}
    (sound : machine.InStep screens) (target : Fin 2048) :
    (Picture.following screens).redraw machine.screen (Screen.place target) =
      machine.screen.pixels.get target := by
  rw [Picture.redraw_place, sound.shown]
  by_cases touched : machine.screen.dirty.get target = true
  · simp [touched]
  · have same : machine.screen.pixels.get target =
        Picture.lastPresented screens (Screen.place target) :=
      Classical.byContradiction fun changed => touched (sound.covered target changed)
    simp [touched, same]

/-- Every action preserves the invariant. -/
theorem act_inStep (machine : Machine) (action : Action) (screens : List Screen)
    (sound : machine.InStep screens) :
    (machine.act action).after.InStep (screens ++ presentations [machine.act action]) := by
  cases action with
  | cycle keyboard now =>
    have silent : presentations [machine.act (.cycle keyboard now)] = [] := rfl
    rw [silent, List.append_nil]
    exact ⟨sound.shown, covers_cycle machine keyboard now sound.covered⟩
  | load program =>
    have silent : presentations [machine.act (.load program)] = [] := by
      by_cases fits : program.length ≤ Memory.programSize <;>
        simp [presentations, act, load, fits]
    rw [silent, List.append_nil, after_load]
    exact ⟨sound.shown, sound.covered⟩
  | pause =>
    have silent : presentations [machine.act .pause] = [] := rfl
    rw [silent, List.append_nil]
    exact ⟨sound.shown, sound.covered⟩
  | present =>
    have handed : presentations [machine.act .present] = [machine.screen] := rfl
    rw [handed]
    constructor
    · intro target
      rw [Picture.following_append, Picture.lastPresented_append, redraw_exact sound]
      simp [Screen.get]
    · rw [Picture.lastPresented_append]
      exact machine.screen.covers_self

/-- A machine that was never shown is all off, as is the picture of its host. -/
theorem boot_inStep (settings : Settings) (now : Instant) (entropy : Random.StreamKey) :
    (boot settings now entropy).InStep [] := by
  constructor
  · intro target
    rfl
  · intro target changed
    exact absurd (by simp [boot, Screen.blank, Vector.get, Picture.lastPresented, Picture.dark])
      changed

/-- The invariant holds after every run. -/
theorem run_inStep (settings : Settings) (now : Instant) (entropy : Random.StreamKey)
    (actions : List Action) :
    ((boot settings now entropy).run actions).InStep
      (presentations ((boot settings now entropy).history actions)) := by
  induction actions using List.reverseRecOn with
  | nil => exact boot_inStep settings now entropy
  | append_singleton earlier action inductionHypothesis =>
    rw [run_append, history_append]
    simp only [presentations, List.filterMap_append]
    exact act_inStep _ action _ inductionHypothesis

/-- Redrawing by touched cells is sound over whole runs. Let a host start with a dark
picture and, at each present, overwrite just the cells listed as touched. After every
present its picture is the screen. At every moment the cells whose pixels differ from
those last presented are touched, and the list of touched cells names exactly these,
each once, row by row. -/
theorem redraw_sound (settings : Settings) (now : Instant) (entropy : Random.StreamKey)
    (actions : List Action) :
    let start := boot settings now entropy
    let presented := actions ++ [.present]
    let screen := (start.run actions).screen
    (∀ (x : Fin 64) (y : Fin 32),
      Picture.following (presentations (start.history presented)) (x.val, y.val) =
        (start.run presented).screen.get x.val y.val) ∧
    (∀ (x : Fin 64) (y : Fin 32),
      screen.get x.val y.val ≠
          Picture.lastPresented (presentations (start.history actions)) (x.val, y.val) →
        screen.isDirty x.val y.val = true) ∧
    (∀ x y, (x, y) ∈ screen.dirtyCells ↔ x < 64 ∧ y < 32 ∧ screen.isDirty x y = true) ∧
    screen.dirtyCells.Nodup ∧
    screen.dirtyCells.Pairwise Screen.Before := by
  intro start presented screen
  have sound := run_inStep settings now entropy actions
  refine ⟨?_, ?_, screen.mem_dirtyCells, ?_, screen.pairwise_dirtyCells⟩
  · intro x y
    have drawn := redraw_exact sound (Screen.cell x.val y.val)
    rw [Screen.place_cell x.isLt y.isLt] at drawn
    have pictures : presentations (start.history presented) =
        presentations (start.history actions) ++ [screen] := by
      simp only [presented, history_append, presentations, List.filterMap_append]
      rfl
    have after : (start.run presented).screen = screen.clearDirty := by
      simp only [presented, run_append]
      rfl
    rw [pictures, Picture.following_append, after]
    exact drawn
  · intro x y changed
    apply sound.covered
    rwa [Screen.place_cell x.isLt y.isLt]
  · exact screen.pairwise_dirtyCells.imp Screen.ne_of_before

end Machine

end Chip8
