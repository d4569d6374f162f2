/-!
# Opcode spaces

The processor has two opcode spaces.  An opcode of the primary space is one
byte; an opcode of the extended space is reached through the byte `CB`.
-/

namespace OpcodeTables

/-- The two tables of opcodes: those of one byte, and those behind the marker byte. -/
inductive Space where
  | primary
  | extended
  deriving DecidableEq, Repr

namespace Space

/-- The spaces in the order in which their tables are generated. -/
def all : List Space := [.primary, .extended]

/-- The space's name in messages and reports. -/
def label : Space → String
  | .primary => "primary"
  | .extended => "extended"

/-- The handler that stands for every opcode without one of its own. -/
def fallbackHandler : Space → String
  | .primary => "missing"
  | .extended => "missing_cb"

/-- What the names of the space's tables begin with. -/
def tablePrefix : Space → String
  | .primary => ""
  | .extended => "CB_"

end Space

/-- What an annotation writes in front of the digits of an extended opcode. -/
def extendedMarker : String := "CB"

end OpcodeTables
