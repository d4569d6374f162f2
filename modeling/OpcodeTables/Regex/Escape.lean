import OpcodeTables.Regex
import OpcodeTables.Regex.Flags
import OpcodeTables.Text.Beginning
import OpcodeTables.Text.CharSet.Named

/-!
# Escapes

What a backslash and the characters behind it stand for: a character, a set of
characters or a condition on a place.
-/

namespace OpcodeTables.Regex

/-- What a backslash and the characters behind it stand for. -/
inductive Escape where
  | char (c : Char)
  /-- A character that is written as the value of one byte. -/
  | byte (c : Char)
  | set (accepted : CharSet)
  | anchor (anchor : Anchor)

namespace Escape

/-! ## Code points -/

def charOfHex? (digits : List Char) : Option Char := do
  let code ← Text.ofHexDigits? digits
  if code.isValidChar then some (Char.ofNat code) else none

/-- The given number of characters that count, and the text behind them. -/
def taken? (flags : Flags) : (count : Nat) → List Char → Option (List Char × List Char)
  | 0, text => some ([], text)
  | _ + 1, [] => none
  | count + 1, c :: rest =>
    (taken? flags count (flags.skip rest)).map fun (found, behind) => (c :: found, behind)

/-- Reads a code point: digits in braces, or as many digits as given. -/
def codePoint? (flags : Flags) (count : Nat) (text : List Char) : Option (Escape × List Char) :=
  match flags.skip text with
  | '\x7b' :: rest => do
    let (digits, behind) ← flags.braced? (rest.length + 1) rest
    return (.char (← charOfHex? digits), flags.skip behind)
  | text => do
    let (digits, behind) ← taken? flags count text
    let c ← charOfHex? digits
    return (if count = 2 then .byte c else .char c, behind)

/-! ## Conditions on places -/

def namedConditions : List (String × WordCondition) :=
  [("start", .start), ("end", .finish), ("start-half", .startHalf), ("end-half", .finishHalf)]

/-- Reads the name of a condition behind `\b`, unless what stands in braces there is
no name but a number of repetitions. -/
def boundary? (flags : Flags) (text : List Char) : Option (WordCondition × List Char) :=
  match text with
  | '\x7b' :: rest =>
    if (flags.skip rest).head?.all fun c => c.isAlpha || c == '-' then do
      let (name, behind) ← flags.braced? (rest.length + 1) rest
      let (_, condition) ← namedConditions.find? fun entry => entry.1 == String.ofList name
      return (condition, behind)
    else some (.boundary, text)
  | _ => some (.boundary, text)

/-! ## Sets -/

/-- Without Unicode, a negated set would hold more than ASCII characters. -/
def shorthand? (flags : Flags) (isNegated : Bool) (set : CharSet) : Option Escape :=
  if flags.isUnicode then some (.set (if isNegated then set.complement else set))
  else if isNegated then none
  else some (.set (set.intersection .ascii))

/-- What stands in front of the first occurrence of a sign, and what stands behind
it. -/
def splitAtSign? (sign text : List Char) : Option (List Char × List Char) :=
  (List.range text.length).findSome? fun index =>
    (Text.after? sign (text.drop index)).map fun behind => (text.take index, behind)

/-- The set that the text in the braces behind `\p` names, and whether it is to be
negated: the name of a set, or of a property and a value of it. -/
def ofProperty? (text : List Char) : Option (CharSet × Bool) :=
  match splitAtSign? ['!', '='] text with
  | some (property, value) => (CharSet.ofValue? property value).map (·, true)
  | none =>
    match splitAtSign? [':'] text <|> splitAtSign? ['='] text with
    | some (property, value) => (CharSet.ofValue? property value).map (·, false)
    | none => (CharSet.ofName? text).map (·, false)

/-- Reads the name of a property behind `\p`: one letter, or a text in braces. -/
def property? (flags : Flags) (isNegated : Bool) (text : List Char) :
    Option (Escape × List Char) := do
  if !flags.isUnicode then none
  let (name, behind) ← match flags.skip text with
    | [] | '\\' :: _ => none
    | '\x7b' :: rest => flags.braced? (rest.length + 1) rest
    | c :: rest => some ([c], rest)
  let (accepted, isUnequal) ← ofProperty? name
  return (.set (← flags.foldAndNegate? (isNegated != isUnequal) accepted), behind)

/-! ## Reading -/

def condition (flags : Flags) (condition : WordCondition) : Escape :=
  .anchor (.word condition !flags.isUnicode)

/-- Reads what stands behind a backslash. -/
def read? (flags : Flags) : List Char → Option (Escape × List Char)
  | [] => none
  | c :: rest =>
    match c with
    | 'd' => (shorthand? flags false .decimal).map (·, rest)
    | 'D' => (shorthand? flags true .decimal).map (·, rest)
    | 's' => (shorthand? flags false .blanks).map (·, rest)
    | 'S' => (shorthand? flags true .blanks).map (·, rest)
    | 'w' => (shorthand? flags false .word).map (·, rest)
    | 'W' => (shorthand? flags true .word).map (·, rest)
    | 'p' => property? flags false rest
    | 'P' => property? flags true rest
    | 'A' => some (.anchor .textStart, rest)
    | 'z' => some (.anchor .textEnd, rest)
    | 'B' => some (condition flags .noBoundary, rest)
    | '<' => some (condition flags .start, rest)
    | '>' => some (condition flags .finish, rest)
    | 'b' => (boundary? flags rest).map fun (found, behind) => (condition flags found, behind)
    | 'a' => some (.char '\x07', rest)
    | 'f' => some (.char '\x0c', rest)
    | 't' => some (.char '\t', rest)
    | 'n' => some (.char '\n', rest)
    | 'r' => some (.char '\r', rest)
    | 'v' => some (.char '\x0b', rest)
    | 'x' => codePoint? flags 2 rest
    | 'u' => codePoint? flags 4 rest
    | 'U' => codePoint? flags 8 rest
    | c => if c.toNat < 0x80 ∧ ¬ c.isAlphanum then some (.char c, rest) else none

end Escape

end OpcodeTables.Regex
