/-!
# Blank characters

A character is blank when Unicode gives it the property `White_Space`.  The
annotation grammar separates its parts by blanks, so this table fixes which
characters may stand between a comment and the declaration below it.
-/

namespace OpcodeTables.Text

/-- The code points of the property `White_Space`, as closed ranges in
ascending order. -/
def blankRanges : List (Nat × Nat) :=
  [(0x09, 0x0D), (0x20, 0x20), (0x85, 0x85), (0xA0, 0xA0), (0x1680, 0x1680),
    (0x2000, 0x200A), (0x2028, 0x2029), (0x202F, 0x202F), (0x205F, 0x205F),
    (0x3000, 0x3000)]

/-- Whether a character separates the parts of an annotation. -/
def isBlank (c : Char) : Bool :=
  blankRanges.any fun range => range.1 ≤ c.toNat && c.toNat ≤ range.2

end OpcodeTables.Text
