import OpcodeTables.Opcode

/-!
# The layout of a table

A table is an array of 256 cells, one for every opcode in ascending order.  It
is laid out in 16 blocks of 4 rows of 4 cells, and every block begins with a
comment that shows its first opcode.

The layout is a list of fragments, each of which ends where a line of the table
does; the text of a table is their concatenation.
-/

namespace OpcodeTables.TableLayout

/-- What the generated sources begin with. -/
def disclaimer : String :=
  "// This file is autogenerated by `tablegen`, do not edit it by hand.\n"

/-- The opcode of a cell, from its row and its place in the row. -/
def opcodeAt (row : Fin 64) (column : Fin 4) : Opcode :=
  ⟨4 * row.val + column.val, by have := row.isLt; have := column.isLt; omega⟩

/-- A row of the table, from its block and its place in the block. -/
def rowAt (block : Fin 16) (line : Fin 4) : Fin 64 :=
  ⟨4 * block.val + line.val, by have := block.isLt; have := line.isLt; omega⟩

def declaration (name elementType : String) : String :=
  "\n\npub static " ++ name ++ " : [" ++ elementType ++ "; 256] = [\n"

/-- The line in front of a block, which names the block's first opcode. -/
def comment (block : Fin 16) : String :=
  "    // " ++ (opcodeAt (rowAt block 0) 0).commentText ++ "\n"

/-- A line of the table with its four cells. -/
def row (cell : Opcode → String) (index : Fin 64) : String :=
  "    " ++
    String.intercalate ", " ((List.finRange 4).map fun column => cell (opcodeAt index column)) ++
    ",\n"

/-- A comment and four rows, which hold sixteen opcodes. -/
def block (cell : Opcode → String) (index : Fin 16) : List String :=
  comment index :: (List.finRange 4).map fun line => row cell (rowAt index line)

/-- The fragments of the table `name` whose cell for an opcode is
`cell opcode`. -/
def fragments (name elementType : String) (cell : Opcode → String) : List String :=
  declaration name elementType :: (List.finRange 16).flatMap (block cell) ++ ["];"]

end OpcodeTables.TableLayout
