import OpcodeTables.Catalogue.Instruction
import OpcodeTables.Opcode
import OpcodeTables.Space

/-!
# Opcode maps

The instructions of one space: a slot for every opcode, empty where no
instruction is implemented.  `get?` is the view of a map; the lemmas below say
what every operation does to it.
-/

namespace OpcodeTables

/-- A slot for each opcode of a space, which is empty where nothing was found. -/
structure OpcodeMap where
  space : Space
  slots : Vector (Option Instruction) 256
  deriving DecidableEq

namespace OpcodeMap

def empty (space : Space) : OpcodeMap := ⟨space, Vector.replicate 256 none⟩

def get? (map : OpcodeMap) (opcode : Opcode) : Option Instruction :=
  map.slots[opcode]

/-- Puts an instruction into the slot of its opcode and hands back what the slot held. -/
def exchange (map : OpcodeMap) (opcode : Opcode) (instruction : Instruction) :
    Option Instruction × OpcodeMap :=
  let (held, slots) := map.slots.swapAt opcode (some instruction)
  (held, { map with slots })

/-- Puts an instruction into the slot of its opcode, in place of what it held. -/
def insert (map : OpcodeMap) (opcode : Opcode) (instruction : Instruction) : OpcodeMap :=
  (map.exchange opcode instruction).2

/-- The occupied slots, in ascending order of their opcodes. -/
def entries (map : OpcodeMap) : List (Opcode × Instruction) :=
  Opcode.all.filterMap fun opcode => (map.get? opcode).map fun instruction => (opcode, instruction)

/-- The number of occupied slots. -/
def size (map : OpcodeMap) : Nat :=
  map.entries.length

def isEmpty (map : OpcodeMap) : Bool := map.size == 0

/-- The handler to call at an opcode: the space's fallback where no instruction
is implemented. -/
def handlerAt (map : OpcodeMap) (opcode : Opcode) : String :=
  match map.get? opcode with
  | some instruction => instruction.handler
  | none => map.space.fallbackHandler

@[simp] theorem get?_empty (space : Space) (opcode : Opcode) :
    (empty space).get? opcode = none := by
  simp [empty, get?]

@[simp] theorem exchange_fst (map : OpcodeMap) (opcode : Opcode) (instruction : Instruction) :
    (map.exchange opcode instruction).1 = map.get? opcode := rfl

@[simp] theorem exchange_snd (map : OpcodeMap) (opcode : Opcode) (instruction : Instruction) :
    (map.exchange opcode instruction).2 = map.insert opcode instruction := rfl

@[simp] theorem slots_insert (map : OpcodeMap) (opcode : Opcode) (instruction : Instruction) :
    (map.insert opcode instruction).slots = map.slots.set opcode (some instruction) := rfl

@[simp] theorem space_insert (map : OpcodeMap) (opcode : Opcode) (instruction : Instruction) :
    (map.insert opcode instruction).space = map.space := rfl

/-- An insertion is seen at its opcode and nowhere else. -/
theorem get?_insert (map : OpcodeMap) (opcode other : Opcode) (instruction : Instruction) :
    (map.insert opcode instruction).get? other =
      if opcode = other then some instruction else map.get? other := by
  simp [get?, Vector.getElem_set, Fin.ext_iff]

@[simp] theorem get?_insert_self (map : OpcodeMap) (opcode : Opcode)
    (instruction : Instruction) :
    (map.insert opcode instruction).get? opcode = some instruction := by
  simp [get?_insert]

end OpcodeMap

end OpcodeTables
