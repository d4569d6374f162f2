import OpcodeTables.Catalogue.Instruction
import OpcodeTables.Opcode
import OpcodeTables.Space

/-!
# Conflicts

Two annotations that name the same opcode.  The later one stays in the map.
-/

namespace OpcodeTables

/-- Two annotations for one opcode, the later of which has replaced the earlier. -/
structure Conflict where
  space : Space
  opcode : Opcode
  previous : Instruction
  replacement : Instruction
  deriving DecidableEq, Repr

/-- The conflict in one line, with the handlers and files on both sides. -/
def Conflict.text (conflict : Conflict) : String :=
  conflict.space.label ++ " opcode " ++ conflict.opcode.text
    ++ ": `" ++ conflict.previous.handler ++ "` (" ++ conflict.previous.source
    ++ ") replaced by `" ++ conflict.replacement.handler ++ "` (" ++ conflict.replacement.source
    ++ ")"

end OpcodeTables
