/-!
# Decimal numerals

Counts are printed in decimal without superfluous zeros.
-/

namespace Chip8.Decimal

/-- The decimal numeral of a number. -/
def numeral (n : Nat) : String :=
  String.ofList (Nat.toDigits 10 n)

end Chip8.Decimal
