/-!
# Hexadecimal numbers
-/

namespace OpcodeTables.Text

/-- The value of a hexadecimal digit, whose letter may be of either case. -/
def hexDigit? (c : Char) : Option Nat :=
  if c.isDigit then some (c.toNat - '0'.toNat)
  else if 'a' ≤ c ∧ c ≤ 'f' then some (c.toNat - 'a'.toNat + 10)
  else if 'A' ≤ c ∧ c ≤ 'F' then some (c.toNat - 'A'.toNat + 10)
  else none

/-- The number that digits stand for, the most significant one first. -/
def ofHexDigits? (digits : List Char) : Option Nat := do
  if digits = [] then none
  let values ← digits.mapM hexDigit?
  return values.foldl (fun number value => 16 * number + value) 0

end OpcodeTables.Text
