/-!
# Opcodes and their two digits

An opcode is one byte.  It is written with two hexadecimal digits, the high
one first: upper case in annotations, messages and reports, lower case in the
block comments of a table.
-/

namespace OpcodeTables

abbrev Opcode := Fin 256

/-- The value of one hexadecimal digit. -/
abbrev Nibble := Fin 16

def Nibble.upper (digit : Nibble) : Char :=
  if digit.val < 10 then Char.ofNat (48 + digit.val) else Char.ofNat (55 + digit.val)

def Nibble.lower (digit : Nibble) : Char :=
  if digit.val < 10 then Char.ofNat (48 + digit.val) else Char.ofNat (87 + digit.val)

def Nibble.ofUpper? (c : Char) : Option Nibble :=
  (List.finRange 16).find? fun digit => digit.upper = c

namespace Opcode

def ofDigits (high low : Nibble) : Opcode :=
  ⟨16 * high.val + low.val, by have := high.isLt; have := low.isLt; omega⟩

def high (opcode : Opcode) : Nibble :=
  ⟨opcode.val / 16, by have := opcode.isLt; omega⟩

def low (opcode : Opcode) : Nibble :=
  ⟨opcode.val % 16, by omega⟩

@[simp] theorem ofDigits_high_low (opcode : Opcode) :
    ofDigits opcode.high opcode.low = opcode := by
  apply Fin.ext
  simp only [ofDigits, high, low]
  omega

/-- The opcode as messages and reports show it, for instance `0x7C`. -/
def text (opcode : Opcode) : String :=
  String.ofList ['0', 'x', opcode.high.upper, opcode.low.upper]

/-- The opcode as a block comment of a table shows it, for instance `0x7c`. -/
def commentText (opcode : Opcode) : String :=
  String.ofList ['0', 'x', opcode.high.lower, opcode.low.lower]

def all : List Opcode := List.finRange 256

end Opcode

end OpcodeTables
