import OpcodeTables.Text.Hexadecimal

/-!
# Sets of characters

A set of characters is kept as ranges of code points, in ascending order and apart
from each other.  Sets are built from ranges, from other sets, and from tables, which
list code points in hexadecimal digits.
-/

namespace OpcodeTables

/-- A set of characters, as ascending ranges of code points that do not touch. -/
structure CharSet where
  /-- The first and the last code point of each range. -/
  ranges : List (Nat × Nat)
  deriving DecidableEq, Repr

namespace CharSet

def greatestCodePoint : Nat := 0x10FFFF

/-- Whether a code point lies in one of some ascending ranges. -/
def liesIn (code : Nat) : List (Nat × Nat) → Bool
  | [] => false
  | (first, last) :: rest => first ≤ code && (code ≤ last || liesIn code rest)

def contains (set : CharSet) (c : Char) : Bool := liesIn c.toNat set.ranges

/-! ## Building sets -/

/-- Puts a range in front of ranges in descending order, of which none begins
behind it.  Ranges that touch become one. -/
def join (joined : List (Nat × Nat)) (range : Nat × Nat) : List (Nat × Nat) :=
  match joined with
  | [] => [range]
  | (first, last) :: rest =>
    if range.1 ≤ last + 1 then (first, max last range.2) :: rest else range :: joined

/-- The set of all code points in some ranges, which may overlap and stand in any order.
-/
def ofRanges (ranges : List (Nat × Nat)) : CharSet :=
  ⟨((ranges.mergeSort fun first second => first.1 ≤ second.1).foldl join []).reverse⟩

def empty : CharSet := ⟨[]⟩

def all : CharSet := ⟨[(0, greatestCodePoint)]⟩

def ofRange (first last : Char) : CharSet := ⟨[(first.toNat, last.toNat)]⟩

def ofChar (c : Char) : CharSet := ofRange c c

def ofCodePoints (codes : List Nat) : CharSet := ofRanges (codes.map fun code => (code, code))

def ascii : CharSet := ⟨[(0, 0x7F)]⟩

/-- The code points that belong to no character. -/
def surrogates : CharSet := ⟨[(0xD800, 0xDFFF)]⟩

def isAscii (set : CharSet) : Bool := set.ranges.all fun range => range.2 < 0x80

/-! ## Operations -/

def union (first second : CharSet) : CharSet := ofRanges (first.ranges ++ second.ranges)

def unionAll (sets : List CharSet) : CharSet := ofRanges (sets.flatMap ranges)

/-- What lies between ascending ranges, from the given code point on. -/
def gaps (start : Nat) : List (Nat × Nat) → List (Nat × Nat)
  | [] => if start ≤ greatestCodePoint then [(start, greatestCodePoint)] else []
  | (first, last) :: rest =>
    if start < first then (start, first - 1) :: gaps (last + 1) rest else gaps (last + 1) rest

def complement (set : CharSet) : CharSet := ⟨gaps 0 set.ranges⟩

def intersection (first second : CharSet) : CharSet :=
  (first.complement.union second.complement).complement

def difference (first second : CharSet) : CharSet := first.intersection second.complement

/-- The characters in exactly one of two sets. -/
def symmetricDifference (first second : CharSet) : CharSet :=
  (first.difference second).union (second.difference first)

/-! ## Tables -/

/-- The ranges of one entry of a table: a code point, two code points with a dash
between them, or a range of which every other code point counts, which `/2` behind
it says. -/
def ofEntry (entry : List Char) : List (Nat × Nat) :=
  let number (digits : List Char) : Nat := (Text.ofHexDigits? digits).getD 0
  match (entry.splitOn '/').map (·.splitOn '-') with
  | [[code]] => [(number code, number code)]
  | [[first, last]] => [(number first, number last)]
  | [[first, last], _] =>
    (List.range ((number last - number first) / 2 + 1)).map fun index =>
      (number first + 2 * index, number first + 2 * index)
  | _ => []

/-- The entries of a table, between which stand blanks. -/
def entries (table : String) : List (List Char) :=
  (table.toList.splitOnP Char.isWhitespace).filter fun entry => !entry.isEmpty

/-- Reads a table of code points in hexadecimal digits. -/
def ofTable (table : String) : CharSet := ofRanges ((entries table).flatMap ofEntry)

end CharSet

end OpcodeTables
