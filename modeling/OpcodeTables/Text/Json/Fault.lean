/-!
# Faults of JSON documents

A fault is a message and the place in the document that it is about.  Its text
ends in the place, from which a fault can be read again.
-/

namespace OpcodeTables.Json

/-- A fault of a document and its place. -/
structure Fault where
  message : String
  /-- The line of the place, counted from one; 0 if there is none. -/
  line : Nat
  column : Nat
  deriving DecidableEq, Repr

namespace Fault

def lineWord : List Char := " at line ".toList

def columnWord : List Char := " column ".toList

/-- The fault with its place behind it, if it has one. -/
def text (fault : Fault) : String :=
  if fault.line = 0 then fault.message
  else
    fault.message ++ String.ofList (lineWord ++ (Nat.repr fault.line).toList ++ columnWord
      ++ (Nat.repr fault.column).toList)

/-- Splits a text at the last occurrence of a word. -/
def splitAtLast? (word : List Char) : List Char → Option (List Char × List Char)
  | [] => none
  | c :: rest =>
    match splitAtLast? word rest with
    | some (before, behind) => some (c :: before, behind)
    | none =>
      if word.isPrefixOf (c :: rest) then some ([], (c :: rest).drop word.length) else none

/-- The value of digits, if there are any and it fits into 64 bits. -/
def count? (digits : List Char) : Option Nat :=
  if digits = [] then none
  else
    let value := digits.foldl (fun value digit => 10 * value + (digit.toNat - '0'.toNat)) 0
    if value < UInt64.size then some value else none

/-- Reads a line and a column that take up the whole text. -/
def place? (text : List Char) : Option (Nat × Nat) := do
  let behindLine := text.dropWhile Char.isDigit
  let behindWord := behindLine.drop columnWord.length
  if columnWord.isPrefixOf behindLine ∧ behindWord.all Char.isDigit then
    return (← count? (text.takeWhile Char.isDigit), ← count? behindWord)
  else none

/-- Reads a fault from its text.  A text that does not end in a place is a
message as a whole. -/
def ofText (text : String) : Fault :=
  match splitAtLast? lineWord text.toList with
  | none => ⟨text, 0, 0⟩
  | some (message, behind) =>
    match place? behind with
    | none => ⟨text, 0, 0⟩
    | some (line, column) => ⟨String.ofList message, line, column⟩

end Fault

end OpcodeTables.Json
