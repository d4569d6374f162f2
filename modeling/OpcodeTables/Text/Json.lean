import OpcodeTables.Opcode

/-!
# JSON documents

The values that a report is made of, and their text: two spaces for every level
of nesting, one item or field in a line, `[]` and `{}` for what is empty.
-/

namespace OpcodeTables

/-- A document of numbers, texts, arrays and objects whose fields keep their order. -/
inductive Json where
  | number (value : Nat)
  | string (value : String)
  | array (items : List Json)
  | object (fields : List (String × Json))

namespace Json

/-- The digits of a code point below 256. -/
def codeDigits (code : Nat) : List Char :=
  [Nibble.lower (Fin.ofNat 16 (code / 16)), Nibble.lower (Fin.ofNat 16 code)]

/-- A character inside a quoted text.  Quotes, backslashes and the control
characters below the space are escaped. -/
def escapeChar (c : Char) : List Char :=
  if c = '"' then ['\\', '"']
  else if c = '\\' then ['\\', '\\']
  else if c = '\x08' then ['\\', 'b']
  else if c = '\x0c' then ['\\', 'f']
  else if c = '\n' then ['\\', 'n']
  else if c = '\r' then ['\\', 'r']
  else if c = '\t' then ['\\', 't']
  else if c.toNat < 0x20 then ['\\', 'u', '0', '0'] ++ codeDigits c.toNat
  else [c]

/-- A text in quotes. -/
def quoted (text : String) : List Char :=
  '"' :: text.toList.flatMap escapeChar ++ ['"']

/-- A new line at the given level of nesting. -/
def lineStart (level : Nat) : List Char :=
  '\n' :: List.replicate (2 * level) ' '

mutual

/-- The text of a value whose lines stand at the given level. -/
def chars (level : Nat) : Json → List Char
  | .number value => (Nat.repr value).toList
  | .string value => quoted value
  | .array [] => ['[', ']']
  | .array (first :: rest) =>
    '[' :: lineStart (level + 1) ++ chars (level + 1) first ++ itemsChars (level + 1) rest
      ++ lineStart level ++ [']']
  | .object [] => ['{', '}']
  | .object ((key, value) :: rest) =>
    '{' :: lineStart (level + 1) ++ quoted key ++ [':', ' '] ++ chars (level + 1) value
      ++ fieldsChars (level + 1) rest ++ lineStart level ++ ['}']

/-- The items of an array behind its first one. -/
def itemsChars (level : Nat) : List Json → List Char
  | [] => []
  | item :: rest => ',' :: lineStart level ++ chars level item ++ itemsChars level rest

/-- The fields of an object behind its first one. -/
def fieldsChars (level : Nat) : List (String × Json) → List Char
  | [] => []
  | (key, value) :: rest =>
    ',' :: lineStart level ++ quoted key ++ [':', ' '] ++ chars level value
      ++ fieldsChars level rest

end

/-- The document with one item or field to a line. -/
def render (value : Json) : String := String.ofList (chars 0 value)

end Json

end OpcodeTables
