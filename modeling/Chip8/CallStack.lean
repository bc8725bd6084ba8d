import Chip8.Fault

/-!
# The call stack

Sixteen slots for return addresses and the number of slots in use. Slots above
that number keep whatever was last stored in them and are never read. Seen from
outside, the stack is the list of its addresses from the oldest to the newest.
Both operations return the stack as they leave it, also beside a fault.
-/

namespace Chip8

/-- Return addresses of the subroutines being executed. -/
structure CallStack where
  slots : Vector UInt16 16
  depth : Nat
  depth_le : depth ≤ 16 := by omega
  deriving DecidableEq, Repr

namespace CallStack

/-- The most addresses the stack can hold. -/
def capacity : Nat := 16

/-- No subroutine is being executed. -/
def empty : CallStack :=
  { slots := Vector.replicate 16 0, depth := 0 }

/-- The stored addresses, oldest first. -/
def toList (stack : CallStack) : List UInt16 :=
  stack.slots.toList.take stack.depth

/-- Store an address; a full stack takes none. -/
def push (stack : CallStack) (address : UInt16) : CallStack × Except Fault Unit :=
  if room : stack.depth < 16 then
    ({ slots := stack.slots.set stack.depth address
       depth := stack.depth + 1 }, .ok ())
  else (stack, .error .stackOverflow)

/-- Take the newest address; an empty stack has none. -/
def pop (stack : CallStack) : CallStack × Except Fault UInt16 :=
  match below : stack.depth with
  | 0 => (stack, .error .stackUnderflow)
  | rest + 1 =>
    have bound := stack.depth_le
    ({ slots := stack.slots, depth := rest }, .ok (stack.slots.get ⟨rest, by omega⟩))

end CallStack

end Chip8
