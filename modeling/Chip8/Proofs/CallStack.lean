import Chip8.CallStack

/-!
# The call stack as a list

Seen as the list of its addresses from the oldest to the newest, a call stack is
changed at its end only: storing an address appends it, taking one removes the last.
Whatever the slots beyond the depth still hold plays no part. An operation that fails
leaves the stack as it was.
-/

namespace Chip8.CallStack

/-- The list has one entry for each slot in use. -/
theorem length_toList (stack : CallStack) : stack.toList.length = stack.depth := by
  have bound : stack.depth ≤ 16 := stack.depth_le
  simp [toList, bound]

/-- An address is refused exactly by a stack with all sixteen slots in use, which it
leaves unchanged. -/
theorem push_eq_error_iff {stack after : CallStack} {address : UInt16} {fault : Fault} :
    stack.push address = (after, .error fault) ↔
      stack.depth = 16 ∧ after = stack ∧ fault = .stackOverflow := by
  have bound : stack.depth ≤ 16 := stack.depth_le
  unfold push
  split
  case isTrue room =>
    have free : stack.depth ≠ 16 := by omega
    simp [free]
  case isFalse full =>
    have taken : stack.depth = 16 := by omega
    simp [taken, eq_comm]

/-- There is nothing to take exactly when no slot is in use, and then nothing changes. -/
theorem pop_eq_error_iff {stack after : CallStack} {fault : Fault} :
    stack.pop = (after, .error fault) ↔
      stack.depth = 0 ∧ after = stack ∧ fault = .stackUnderflow := by
  unfold pop
  split
  case h_1 vacant => simp [vacant, eq_comm]
  case h_2 rest below => simp [below]

/-- Storing an address appends it. The new entry stands in the first slot that was
not in use, so the entries below it are those of the old list. -/
theorem toList_push {stack pushed : CallStack} {address : UInt16}
    (stored : stack.push address = (pushed, .ok ())) :
    pushed.toList = stack.toList ++ [address] := by
  unfold push at stored
  split at stored
  case isTrue room =>
    cases stored
    have below : (stack.slots.set stack.depth address).toList.take stack.depth =
        stack.slots.toList.take stack.depth := by
      rw [Vector.toList_set, List.take_set_of_le (Nat.le_refl _)]
    simp [toList, List.take_add_one, room, below]
  case isFalse => cases stored

/-- Taking an address removes the last entry. -/
theorem toList_pop {stack popped : CallStack} {address : UInt16}
    (taken : stack.pop = (popped, .ok address)) :
    stack.toList = popped.toList ++ [address] := by
  unfold pop at taken
  split at taken
  case h_1 => cases taken
  case h_2 rest below =>
    have bound : stack.depth ≤ 16 := stack.depth_le
    cases taken
    simp [toList, below, List.take_add_one, Vector.get]

end Chip8.CallStack
