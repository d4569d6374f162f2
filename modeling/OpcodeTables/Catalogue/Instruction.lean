/-!
# Instructions

What one annotation says about the instruction its handler implements.
-/

namespace OpcodeTables

/-- What the tables and the report show of an instruction. -/
structure Instruction where
  /-- The name between the quotes, shown by a disassembler. -/
  name : String
  handler : String
  /-- The digits of the cycle count, as written. -/
  cycles : String
  /-- The file that holds the annotation. -/
  source : String
  deriving DecidableEq, Repr

end OpcodeTables
