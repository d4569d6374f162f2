import OpcodeTables.Annotated
import OpcodeTables.Catalogue.Conflict
import OpcodeTables.Catalogue.ImportList
import OpcodeTables.Catalogue.OpcodeMap
import OpcodeTables.Journal
import OpcodeTables.Text.Alignment

/-!
# The catalogue of instructions

A catalogue holds all that was learned from handler sources: the instructions
of both spaces, the modules to import, and every conflict in the order in which
the replacing annotations were met.
-/

namespace OpcodeTables

/-- What was learned from the sources that were scanned so far. -/
structure Catalogue where
  primary : OpcodeMap
  extended : OpcodeMap
  imports : ImportList
  conflicts : List Conflict
  deriving DecidableEq

/-- What a handler found in the file `source` says about its instruction. -/
def Annotated.instruction (found : Annotated) (source : String) : Instruction where
  name := found.name
  handler := found.handler
  cycles := found.cycles
  source := source

namespace Catalogue

/-- What is known before the first scan. -/
def empty : Catalogue where
  primary := OpcodeMap.empty .primary
  extended := OpcodeMap.empty .extended
  imports := ImportList.empty
  conflicts := []

/-- The opcode map of a space. -/
def opcodes (catalogue : Catalogue) : Space → OpcodeMap
  | .primary => catalogue.primary
  | .extended => catalogue.extended

def size (catalogue : Catalogue) : Nat :=
  catalogue.primary.size + catalogue.extended.size

/-- Puts an instruction into its slot without a look at what the slot held. -/
def insert (catalogue : Catalogue) (space : Space) (opcode : Opcode)
    (instruction : Instruction) : Catalogue :=
  match space with
  | .primary => { catalogue with primary := catalogue.primary.insert opcode instruction }
  | .extended => { catalogue with extended := catalogue.extended.insert opcode instruction }

/-- The conflict that an instruction brings about, if its slot is occupied. -/
def conflict? (catalogue : Catalogue) (space : Space) (opcode : Opcode)
    (instruction : Instruction) : Option Conflict :=
  ((catalogue.opcodes space).exchange opcode instruction).1.map fun previous =>
    ⟨space, opcode, previous, instruction⟩

/-- Adds the instruction of one annotated handler.  It replaces an earlier instruction
of its opcode, and the conflict is kept. -/
def add (catalogue : Catalogue) (source : String) (found : Annotated) : Catalogue :=
  let instruction := found.instruction source
  let conflict := catalogue.conflict? found.space found.opcode instruction
  let catalogue := catalogue.insert found.space found.opcode instruction
  { catalogue with conflicts := catalogue.conflicts ++ conflict.toList }

/-- Adds what was found in one source, in the order of its text. -/
def addAll (catalogue : Catalogue) (source : String) (found : List Annotated) :
    Catalogue :=
  found.foldl (fun catalogue next => catalogue.add source next) catalogue

/-- Scans a text and adds what is found to the catalogue. -/
def addText (catalogue : Catalogue) (text source : String) : Catalogue :=
  catalogue.addAll source (Annotated.scan text)

def registerModule (catalogue : Catalogue) (module : String) : Catalogue :=
  { catalogue with imports := catalogue.imports.register module }

/-! ## What the additions report -/

/-- The report of an instruction that is added. -/
def recordEvent (found : Annotated) : Event where
  level := .debug
  area := .catalogue
  message := found.space.label ++ " " ++ found.opcode.text ++ " "
    ++ Text.alignLeft 12 found.name ++ " -> " ++ found.handler

/-- The warning of an instruction that replaces another one. -/
def conflictEvent (conflict : Conflict) : Event where
  level := .warn
  area := .catalogue
  message := "Duplicate definition, " ++ conflict.text

/-- What `add` reports. -/
def addEvents (catalogue : Catalogue) (source : String) (found : Annotated) : List Event :=
  recordEvent found
    :: ((catalogue.conflict? found.space found.opcode
        (found.instruction source)).map conflictEvent).toList

/-- What `addAll` reports. -/
def addAllEvents (catalogue : Catalogue) (source : String) : List Annotated → List Event
  | [] => []
  | found :: rest =>
    catalogue.addEvents source found ++ addAllEvents (catalogue.add source found) source rest

/-- A module that is not added to the imports is reported. -/
def registerEvents (catalogue : Catalogue) (module : String) : List Event :=
  if catalogue.imports.admits module then []
  else [⟨.debug, .catalogue, "Module '" ++ module ++ "' not registered"⟩]

end Catalogue

end OpcodeTables
