/-!
# Why a text is refused

A text is read once from left to right, and the first problem met decides.
-/

namespace Chip8.Json

/-- The kind of the first problem of a text. -/
inductive Problem where
  /-- The text ends too early. -/
  | truncated
  /-- The text is not well-formed. -/
  | malformed
  /-- A well-formed value has the wrong type or shape. -/
  | mismatched
  deriving DecidableEq, Repr

end Chip8.Json
