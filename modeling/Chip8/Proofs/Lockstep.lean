import Mathlib.Data.List.Forall2
import Chip8.Proofs.Run

/-!
# Two runs in lockstep

Two machines that are driven by the same actions answer alike as long as what relates
them survives each action. The relation may depend on the actions so far being harmless,
a condition on the moments of the first run.
-/

namespace Chip8

/-- Two moments with the same answer that leave related machines. -/
structure Moment.Matches (related : Machine → Machine → Prop) (first second : Moment) :
    Prop where
  answer : first.answer = second.answer
  after : related first.after second.after

namespace Machine

/-- The same actions lead two machines through matching moments. -/
def Lockstep (related : Machine → Machine → Prop) (first second : Machine)
    (actions : List Action) : Prop :=
  List.Forall₂ (Moment.Matches related) (first.history actions) (second.history actions)

/-- A relation that survives every harmless action keeps two machines in lockstep
through every run whose moments are harmless. -/
theorem lockstep_of_kept {related : Machine → Machine → Prop} {harmless : Moment → Prop}
    (kept : ∀ first second action, related first second → harmless (first.act action) →
      Moment.Matches related (first.act action) (second.act action))
    (first second : Machine) (actions : List Action) (start : related first second)
    (calm : ∀ moment ∈ first.history actions, harmless moment) :
    Lockstep related first second actions := by
  induction actions generalizing first second with
  | nil => exact .nil
  | cons action later inductionHypothesis =>
    obtain ⟨actionCalm, laterCalm⟩ := List.forall_mem_cons.mp calm
    have matched := kept first second action start actionCalm
    exact .cons matched (inductionHypothesis _ _ matched.after laterCalm)

end Machine

end Chip8
