import OpcodeTables.Catalogue
import OpcodeTables.Text.Json

/-!
# The report

A JSON document with everything a catalogue holds, the cycle counts that the
tables leave out included.
-/

namespace OpcodeTables.Report

def instructionFields (instruction : Instruction) : List (String × Json) :=
  [("name", .string instruction.name),
    ("handler", .string instruction.handler),
    ("cycles", .string instruction.cycles),
    ("source", .string instruction.source)]

/-- An occupied slot: its opcode and its instruction. -/
def slot (slot : Opcode × Instruction) : Json :=
  .object (("opcode", .string slot.1.text) :: instructionFields slot.2)

def conflict (conflict : Conflict) : Json :=
  .object
    [("space", .string conflict.space.label),
      ("opcode", .number conflict.opcode),
      ("previous", .object (instructionFields conflict.previous)),
      ("replacement", .object (instructionFields conflict.replacement))]

/-- The modules, the instructions of both spaces and the conflicts. -/
def document (catalogue : Catalogue) : Json :=
  .object
    [("modules", .array (catalogue.imports.modules.map .string)),
      ("primary", .array (catalogue.primary.entries.map slot)),
      ("extended", .array (catalogue.extended.entries.map slot)),
      ("conflicts", .array (catalogue.conflicts.map conflict))]

def render (catalogue : Catalogue) : String := (document catalogue).render

end OpcodeTables.Report
