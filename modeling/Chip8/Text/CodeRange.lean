/-!
# Sets of characters by ranges

A property of characters is a list of inclusive ranges of code points. The ranges of
a list ascend and do not touch, so that each list is the only one for its set.
-/

namespace Chip8.Text

/-- An inclusive range of code points. -/
structure CodeRange where
  low : Nat
  high : Nat
  deriving DecidableEq, Repr

namespace CodeRange

/-- Whether a character lies in a range. -/
def contains (range : CodeRange) (c : Char) : Bool :=
  range.low ≤ c.toNat && c.toNat ≤ range.high

/-- Whether ranges are not empty, ascend and leave a gap between neighbours. -/
def separated : List CodeRange → Bool
  | [] => true
  | [range] => range.low ≤ range.high
  | range :: next :: rest =>
    range.low ≤ range.high && range.high + 1 < next.low && separated (next :: rest)

end CodeRange

end Chip8.Text
