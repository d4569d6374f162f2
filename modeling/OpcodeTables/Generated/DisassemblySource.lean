import OpcodeTables.Catalogue
import OpcodeTables.Generated.TableLayout

/-!
# The disassembly source

The generated source holds a table for each space with the name of every
instruction, as a quoted literal.
-/

namespace OpcodeTables.DisassemblySource

/-- A character inside a literal: a quote or a backslash is written behind a
backslash. -/
def escapeChar (c : Char) : List Char :=
  if c = '\\' ∨ c = '"' then ['\\', c] else [c]

/-- A name in quotes. -/
def literal (name : String) : String :=
  String.ofList ('"' :: name.toList.flatMap escapeChar ++ ['"'])

/-- What stands for an empty slot. -/
def missingName : String := "Missing"

/-- The name that is shown for an opcode. -/
def nameAt (map : OpcodeMap) (opcode : Opcode) : String :=
  match map.get? opcode with
  | some instruction => instruction.name
  | none => missingName

/-- The table of one space. -/
def table (catalogue : Catalogue) (space : Space) : List String :=
  TableLayout.fragments (space.tablePrefix ++ "DISASM_TABLE") "&'static str"
    fun opcode => literal (nameAt (catalogue.opcodes space) opcode)

def fragments (catalogue : Catalogue) : List String :=
  TableLayout.disclaimer :: Space.all.flatMap (table catalogue) ++ ["\n"]

/-- The whole text: the first line and both tables. -/
def render (catalogue : Catalogue) : String :=
  String.join (fragments catalogue)

end OpcodeTables.DisassemblySource
