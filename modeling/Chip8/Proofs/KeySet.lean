import Mathlib.Data.List.FinRange
import Mathlib.Data.List.Induction
import Chip8.Keypad

/-!
# Held keys after any changes

A set of held keys is made by pressing and releasing single keys and by bringing all of them in
line with a list. Whatever was done, a key is held exactly when the last change that concerns it
held it: presses and releases concern their own key, a list concerns every key. The held keys
are listed in ascending order, and the list says everything about the set.
-/

namespace Chip8

namespace KeySet

variable (keys : KeySet) (key other : Key)

/-- Setting the bit of a key changes what is said of this key only. -/
theorem isDown_set (value : Bool) :
    isDown ⟨keys.held.set key.val value key.isLt⟩ other =
      if key = other then value else keys.isDown other := by
  change (keys.held.set key.val value key.isLt)[other.val] = _
  simp only [Vector.getElem_set, Fin.val_inj]
  rfl

/-- After a key is pressed, it and the keys held before are down. -/
theorem isDown_press :
    (keys.press key).isDown other = true ↔ key = other ∨ keys.isDown other = true := by
  rw [press, isDown_set]
  split <;> simp [*]

/-- After a key is released, the keys held before are down except for it. -/
theorem isDown_release :
    (keys.release key).isDown other = true ↔ key ≠ other ∧ keys.isDown other = true := by
  rw [release, isDown_set]
  split <;> simp [*]

/-- No key of the empty set is down. -/
theorem isDown_empty : empty.isDown key = false :=
  Vector.getElem_replicate key.isLt

/-- Pressing keys one after the other holds them all beside what was held before. -/
theorem isDown_foldl_press (pressed : List Key) :
    (pressed.foldl press keys).isDown key = true ↔ key ∈ pressed ∨ keys.isDown key = true := by
  induction pressed generalizing keys with
  | nil => simp
  | cons first rest inductionHypothesis =>
    rw [List.foldl_cons, inductionHypothesis, isDown_press, List.mem_cons, @eq_comm _ key first,
      or_assoc, or_left_comm]

/-- A list holds the keys in it, in whatever order and however often it names them. -/
theorem isDown_ofList (listed : List Key) : (ofList listed).isDown key = true ↔ key ∈ listed := by
  rw [ofList, isDown_foldl_press, isDown_empty]
  simp

/-- A set of held keys is what it says of each key. -/
theorem ext_isDown {first second : KeySet}
    (same : ∀ key, first.isDown key = true ↔ second.isDown key = true) : first = second := by
  obtain ⟨firstHeld⟩ := first
  obtain ⟨secondHeld⟩ := second
  congr 1
  apply Vector.ext
  intro place inside
  exact Bool.eq_iff_iff.mpr (same ⟨place, inside⟩)

/-- The list of a set has the keys that are down. -/
theorem mem_toList : key ∈ keys.toList ↔ keys.isDown key = true := by
  rw [toList, List.mem_filter]
  exact and_iff_right (List.mem_finRange key)

/-- The list of a set is strictly ascending. -/
theorem pairwise_toList : keys.toList.Pairwise (· < ·) :=
  (List.pairwise_lt_finRange 16).filter _

/-- The list of the held keys says everything about them. -/
theorem toList_inj {first second : KeySet} : first.toList = second.toList ↔ first = second := by
  constructor
  · intro same
    apply ext_isDown
    intro key
    rw [← mem_toList, ← mem_toList, same]
  · exact congrArg toList

end KeySet

/-- Something that a host does to the held keys. -/
inductive KeyChange where
  | press (key : Key)
  | release (key : Key)
  /-- Bring every key in line with a list. -/
  | update (keys : List Key)
  deriving DecidableEq

namespace KeyChange

/-- The held keys after a change. -/
def apply (keys : KeySet) : KeyChange → KeySet
  | press key => keys.press key
  | release key => keys.release key
  | update listed => keys.update listed

/-- A change settles whether a key is held. -/
def Concerns (change : KeyChange) (key : Key) : Prop :=
  match change with
  | press pressed => pressed = key
  | release released => released = key
  | update _ => True

/-- A change settles that a key is held. -/
def Holds (change : KeyChange) (key : Key) : Prop :=
  match change with
  | press pressed => pressed = key
  | release _ => False
  | update listed => key ∈ listed

/-- After a change a key is held if the change says so, and if it was held before and the
change does not concern it. -/
theorem isDown_apply (keys : KeySet) (change : KeyChange) (key : Key) :
    (change.apply keys).isDown key = true ↔
      change.Holds key ∨ ¬ change.Concerns key ∧ keys.isDown key = true := by
  cases change with
  | press pressed =>
    simp only [apply, KeySet.isDown_press, Holds, Concerns]
    tauto
  | release released =>
    simp only [apply, KeySet.isDown_release, Holds, Concerns, false_or, ne_eq]
  | update listed =>
    simp only [apply, KeySet.update, KeySet.isDown_ofList, Holds, Concerns, not_true, false_and,
      or_false]

end KeyChange

/-- The last of some changes that concerns a key holds it. -/
def LastHeld (changes : List KeyChange) (key : Key) : Prop :=
  ∃ earlier change later, changes = earlier ++ change :: later ∧
    change.Holds key ∧ ∀ other ∈ later, ¬ other.Concerns key

namespace LastHeld

/-- One more change is the last that concerns a key, or leaves the last one as it was. -/
theorem concat (changes : List KeyChange) (change : KeyChange) (key : Key) :
    LastHeld (changes ++ [change]) key ↔
      change.Holds key ∨ ¬ change.Concerns key ∧ LastHeld changes key := by
  constructor
  -- The change that holds the key is the new one, or the new one lies behind it.
  · rintro ⟨earlier, holding, later, cut, holds, unconcerned⟩
    rcases List.eq_nil_or_concat later with rfl | ⟨between, last, rfl⟩
    · obtain ⟨-, same⟩ := List.append_inj' cut rfl
      obtain rfl : change = holding := List.singleton_inj.mp same
      exact .inl holds
    · rw [List.concat_eq_append] at cut unconcerned
      rw [← List.cons_append, ← List.append_assoc] at cut
      obtain ⟨rfl, same⟩ := List.append_inj' cut rfl
      obtain rfl : change = last := List.singleton_inj.mp same
      obtain ⟨before, unchanged⟩ := List.forall_mem_append.mp unconcerned
      exact .inr ⟨unchanged change (List.mem_singleton_self change),
        earlier, holding, between, rfl, holds, before⟩
  · rintro (holds | ⟨unconcerned, earlier, holding, later, rfl, holds, before⟩)
    · exact ⟨changes, change, [], rfl, holds, fun _ member => absurd member List.not_mem_nil⟩
    · refine ⟨earlier, holding, later ++ [change], ?_, holds, ?_⟩
      · rw [List.append_assoc, List.cons_append]
      · exact List.forall_mem_append.mpr ⟨before, List.forall_mem_singleton.mpr unconcerned⟩

end LastHeld

namespace KeySet

/-- The held keys after some changes, beginning with none. -/
def after (changes : List KeyChange) : KeySet :=
  changes.foldl KeyChange.apply empty

/-- After any changes a key is down exactly if the last change that determines it holds it. -/
theorem isDown_after (changes : List KeyChange) (key : Key) :
    (after changes).isDown key = true ↔ LastHeld changes key := by
  induction changes using List.reverseRecOn with
  | nil =>
    constructor
    · intro down
      exact absurd down (Bool.eq_false_iff.mp (isDown_empty key))
    · rintro ⟨earlier, change, later, cut, -⟩
      exact absurd cut (by simp)
  | append_singleton before change inductionHypothesis =>
    have last : after (before ++ [change]) = change.apply (after before) := by
      rw [after, List.foldl_concat, after]
    rw [last, KeyChange.isDown_apply, inductionHypothesis, LastHeld.concat]

/-- A set of held keys behaves as a set. After any changes to a set without keys, in which lists
may have any order and repeats, a key is held exactly when the last change that concerns it held
it, and the held keys are listed in strictly ascending order. Two sets are the same exactly when
they list the same keys, and lists with the same keys make the same set.

Proof: one more change either settles a key or leaves it as it was, so the claim holds by
induction on the changes from the left. The held keys are listed by a filter over all keys in
order, in which no key is lost. -/
theorem held_by_last_change :
    (∀ changes : List KeyChange,
      (∀ key, (after changes).isDown key = true ↔ LastHeld changes key) ∧
      (after changes).toList.Pairwise (· < ·) ∧
      ∀ key, key ∈ (after changes).toList ↔ LastHeld changes key) ∧
    (∀ first second : KeySet, first = second ↔ first.toList = second.toList) ∧
    ∀ listed others : List Key, (∀ key, key ∈ listed ↔ key ∈ others) →
      ofList listed = ofList others := by
  refine ⟨?_, fun _ _ => toList_inj.symm, ?_⟩
  · intro changes
    refine ⟨isDown_after changes, pairwise_toList _, ?_⟩
    intro key
    rw [mem_toList, isDown_after]
  · intro listed others same
    apply ext_isDown
    intro key
    rw [isDown_ofList, isDown_ofList, same]

/-- Two keys are pressed and one is released, a list that names a key twice replaces them, and
the released key is pressed again. -/
theorem pressed_again :
    let changes : List KeyChange :=
      [.press 0xB, .press 3, .release 0xB, .update [0xF, 1, 0xF], .press 0xB, .release 3]
    (after changes).toList = [1, 0xB, 0xF] ∧ LastHeld changes 0xF ∧ ¬ LastHeld changes 3 ∧
      (∀ key : Key, key ∈ [0xF, 1, 0xF] ↔ key ∈ [1, 0xF]) ∧
      ofList [0xF, 1, 0xF] = ofList [1, 0xF] := by
  intro changes
  have listed : (after changes).toList = [1, 0xB, 0xF] := by decide
  have same : ∀ key : Key, key ∈ [0xF, 1, 0xF] ↔ key ∈ [1, 0xF] := by decide
  obtain ⟨changed, -, alike⟩ := held_by_last_change
  obtain ⟨-, -, members⟩ := changed changes
  rw [listed] at members
  exact ⟨listed, (members 0xF).mp (by decide), mt (members 3).mpr (by decide), same,
    alike _ _ same⟩

end KeySet

end Chip8
