import OpcodeTables.Regex.Bracketed
import OpcodeTables.Regex.Size

/-!
# Reading regular expressions

The text of a regular expression is read from left to right.  Besides letters
that stand for themselves it holds

* `.`, `[...]` and escapes such as `\d`, `\w` and `\pL`, for one character;
* `^`, `$`, `\b` and other conditions on a place;
* `(...)`, with `?:`, a name or flags behind the parenthesis, and `|`;
* `*`, `+`, `?` and `{n,m}`, where a `?` behind them is without effect on what
  matches.

A text that breaks these rules is no expression, and neither is one that is nested
too deeply or stands for too large an automaton.
-/

namespace OpcodeTables.Regex

/-! ## Groups -/

/-- Reads the letters of flags up to the colon or parenthesis behind them; says
whether it was a colon.  No letter may stand twice, and letters have to stand behind
the dash that switches flags off. -/
def flagLetters? : List Char → Option (List Char × Bool × List Char)
  | ':' :: rest => some ([], true, rest)
  | ')' :: rest => some ([], false, rest)
  | c :: rest => do
    let (letters, isGroup, behind) ← flagLetters? rest
    if letters.contains c || c == '-' && letters = [] then none
    return (c :: letters, isGroup, behind)
  | [] => none

/-- Switches the flag with the given letter. -/
def Flags.switch? (flags : Flags) (isOn : Bool) : Char → Option Flags
  | 'i' => some { flags with anyCase := isOn }
  | 'm' => some { flags with multiLine := isOn }
  | 's' => some { flags with dotMatchesAll := isOn }
  | 'R' => some { flags with returns := isOn }
  | 'U' => some flags
  | 'u' => some { flags with isUnicode := isOn }
  | 'x' => some { flags with isSpaced := isOn }
  | _ => none

/-- Switches flags; those behind a dash are switched off. -/
def Flags.switchAll? (flags : Flags) (isOn : Bool) : List Char → Option Flags
  | [] => some flags
  | '-' :: rest => flags.switchAll? false rest
  | c :: rest => (flags.switch? isOn c).bind fun flags => flags.switchAll? isOn rest

def isNameStart (c : Char) : Bool := c == '_' || CharSet.alphabetic.contains c

def numbers : CharSet := CharSet.Category.charsOfAll CharSet.Category.numbers

def isNamePart (c : Char) : Bool :=
  ['_', '.', '[', ']'].contains c || CharSet.alphabetic.contains c || numbers.contains c

/-- Reads the name of a group and the angle behind it. -/
def groupName? (text : List Char) : Option (List Char × List Char) :=
  match text.takeWhile (· != '>'), text.dropWhile (· != '>') with
  | first :: name, _ :: rest =>
    if isNameStart first && name.all isNamePart then some (first :: name, rest) else none
  | _, _ => none

/-- What an opening parenthesis begins. -/
inductive GroupStart where
  /-- A group whose stretch is remembered, under a name if it has one. -/
  | remembered (name : Option (List Char))
  | plain (flags : Flags)
  /-- No group: the flags change from here on. -/
  | flagsOnly (flags : Flags)

/-- Reads what stands behind an opening parenthesis. -/
def groupStart? (flags : Flags) (text : List Char) : Option (GroupStart × List Char) :=
  match flags.skip text with
  | '?' :: 'P' :: '<' :: rest | '?' :: '<' :: rest =>
    (groupName? rest).map fun (name, behind) => (.remembered (some name), behind)
  | '?' :: rest => do
    let (letters, isGroup, behind) ← flagLetters? rest
    let switched ← flags.switchAll? true letters
    if isGroup then return (.plain switched, behind)
    else if letters = [] then none
    else return (.flagsOnly switched, behind)
  | text => some (.remembered none, text)

/-! ## Repetitions -/

/-- Reads digits, and blanks between them where these do not count. -/
def digits (flags : Flags) : (steps : Nat) → List Char → List Char × List Char
  | steps + 1, c :: rest =>
    if c.isDigit then
      let (found, behind) := digits flags steps (flags.skip rest)
      (c :: found, behind)
    else ([], c :: rest)
  | _, text => ([], text)

/-- Reads a number with blanks around it. -/
def number? (flags : Flags) (text : List Char) : Option (Nat × List Char) :=
  let start := text.dropWhile Text.isBlank
  let (found, behind) := digits flags start.length start
  let value := found.foldl (fun value digit => 10 * value + (digit.toNat - '0'.toNat)) 0
  if found = [] ∨ UInt32.size ≤ value then none
  else some (value, flags.skip (behind.dropWhile Text.isBlank))

/-- Reads the bounds of a repetition behind the opening brace. -/
def bounds? (flags : Flags) (text : List Char) : Option (Nat × Option Nat × List Char) := do
  let (least, rest) ← number? flags (flags.skip text)
  match rest with
  | '\x7d' :: rest => return (least, some least, rest)
  | ',' :: rest =>
    match flags.skip rest with
    | '\x7d' :: rest => return (least, none, rest)
    | rest =>
      let (most, rest) ← number? flags rest
      let rest ← Text.after? ['\x7d'] rest
      if least ≤ most then return (least, some most, rest) else none
  | _ => none

/-- Reads a sign of repetition and the mark behind it. -/
def repetition? (flags : Flags) : List Char → Option (Nat × Option Nat × List Char)
  | '*' :: rest => some (0, none, behindMark rest)
  | '+' :: rest => some (1, none, behindMark rest)
  | '?' :: rest => some (0, some 1, behindMark rest)
  | '\x7b' :: rest =>
    (bounds? flags rest).map fun (least, most, rest) => (least, most, behindMark (flags.skip rest))
  | _ => none
where
  behindMark (text : List Char) : List Char := (Text.after? ['?'] text).getD text

/-! ## Expressions -/

/-- A part of an expression. -/
structure Part where
  regex : Regex
  /-- The depth to which parts are nested in it. -/
  depth : Nat := 0
  /-- Flags are no part that can be repeated. -/
  isFlags : Bool := false

/-- A group whose closing parenthesis is still to come, or the whole expression. -/
structure OpenGroup where
  isRemembered : Bool := false
  /-- The flags that hold again behind the group. -/
  outerFlags : Flags := {}
  /-- The alternatives read so far, the last one first. -/
  alternatives : List Part := []
  /-- The parts of the alternative being read, the last one first. -/
  parts : List Part := []

namespace OpenGroup

def add (group : OpenGroup) (part : Part) : OpenGroup :=
  { group with parts := part :: group.parts }

def greatestDepth (parts : List Part) : Nat := (parts.map (·.depth)).foldl max 0

/-- The alternative being read. -/
def alternative (group : OpenGroup) : Part :=
  match group.parts with
  | [] => ⟨.empty, 0, false⟩
  | [part] => part
  | parts =>
    ⟨parts.foldl (fun behind part => .sequence part.regex behind) .empty, greatestDepth parts + 1,
      false⟩

/-- Goes on behind a bar. -/
def nextAlternative (group : OpenGroup) : OpenGroup :=
  { group with alternatives := group.alternative :: group.alternatives, parts := [] }

/-- Alternatives together.  Where each is one character, so is the whole. -/
def eitherOf (first : Regex) (others : List Regex) : Regex :=
  match (first :: others).mapM Regex.accepted? with
  | some sets => .char (.unionAll sets)
  | none => others.foldl (fun behind other => .either other behind) first

/-- All alternatives together. -/
def whole (group : OpenGroup) : Part :=
  match group.alternatives with
  | [] => group.alternative
  | others =>
    ⟨eitherOf group.alternative.regex (others.map (·.regex)),
      greatestDepth (group.alternative :: others) + 1, false⟩

/-- The group as a part of the one around it. -/
def close (group : OpenGroup) : Part :=
  let inner := group.whole
  ⟨if group.isRemembered then .group inner.regex else inner.regex, inner.depth + 1, false⟩

end OpenGroup

/-- How far an expression is read: the open groups, the innermost one first. -/
structure Reader where
  flags : Flags := {}
  group : OpenGroup := {}
  outer : List OpenGroup := []
  /-- The names of groups so far; none may stand twice. -/
  names : List (List Char) := []

namespace Reader

def add (reader : Reader) (part : Part) : Reader := { reader with group := reader.group.add part }

def addRegex (reader : Reader) (regex : Regex) : Reader := reader.add ⟨regex, 0, false⟩

def addSet (reader : Reader) (accepted : CharSet) : Reader := reader.addRegex (.char accepted)

def addChar (reader : Reader) (c : Char) : Reader := reader.addSet (reader.flags.fold (.ofChar c))

/-- Without Unicode, the value of a byte has to be that of an ASCII character. -/
def addEscape? (reader : Reader) : Escape → Option Reader
  | .char c => some (reader.addChar c)
  | .byte c => if reader.flags.isUnicode || c.toNat < 0x80 then some (reader.addChar c) else none
  | .set accepted => some (reader.addSet accepted)
  | .anchor condition => some (reader.addRegex (.anchor condition))

/-- Repeats the part read last. -/
def repeatLast? (reader : Reader) (least : Nat) (most : Option Nat) : Option Reader :=
  match reader.group.parts with
  | [] => none
  | part :: parts =>
    if part.isFlags then none
    else
      some { reader with
        group := { reader.group with
          parts := ⟨.repeated least most part.regex, part.depth + 1, false⟩ :: parts } }

def closeGroup? (reader : Reader) : Option Reader :=
  match reader.outer with
  | [] => none
  | above :: outer =>
    some { reader with
      flags := reader.group.outerFlags, group := above.add reader.group.close, outer }

/-- Begins a group in which the given flags hold. -/
def openGroup (reader : Reader) (isRemembered : Bool) (flags : Flags) : Reader :=
  { reader with
    flags
    group := { isRemembered, outerFlags := reader.flags }
    outer := reader.group :: reader.outer }

def startGroup? (reader : Reader) : GroupStart → Option Reader
  | .remembered none => some (reader.openGroup true reader.flags)
  | .remembered (some name) =>
    if reader.names.contains name then none
    else some { reader.openGroup true reader.flags with names := name :: reader.names }
  | .plain flags => some (reader.openGroup false flags)
  | .flagsOnly flags => some { reader.add ⟨.empty, 0, true⟩ with flags }

/-- Reads the next part of a text that begins with the given character. -/
def step? (reader : Reader) (c : Char) (rest : List Char) : Option (Reader × List Char) := do
  let flags := reader.flags
  match c with
  | '(' =>
    let (start, behind) ← groupStart? flags rest
    return (← reader.startGroup? start, behind)
  | ')' => return (← reader.closeGroup?, rest)
  | '|' => return ({ reader with group := reader.group.nextAlternative }, rest)
  | '*' | '+' | '?' | '\x7b' =>
    let (least, most, behind) ← repetition? flags (c :: rest)
    return (← reader.repeatLast? least most, behind)
  | '.' => return (reader.addSet (← flags.dot?), rest)
  | '^' =>
    return (reader.addRegex
      (.anchor (if flags.multiLine then .lineStart flags.returns else .textStart)), rest)
  | '$' =>
    return (reader.addRegex
      (.anchor (if flags.multiLine then .lineEnd flags.returns else .textEnd)), rest)
  | '[' =>
    let (found, behind) ← Bracketed.read? flags rest
    return (reader.add ⟨.char found.set, found.depth, false⟩, behind)
  | '\\' =>
    let (found, behind) ← Escape.read? flags rest
    return (← reader.addEscape? found, behind)
  | c => return (reader.addChar c, rest)

/-- Reads a text in at most the given number of steps. -/
def readFrom? : (steps : Nat) → Reader → List Char → Option Reader
  | steps, reader, text =>
    match reader.flags.skip text, steps with
    | [], _ => some reader
    | _ :: _, 0 => none
    | c :: rest, steps + 1 => do
      let (reader, behind) ← reader.step? c rest
      readFrom? steps reader behind

end Reader

/-- The depth to which the parts of an expression may be nested. -/
def greatestDepth : Nat := 250

/-- The expression that a text is.  Every step takes up a part of the text. -/
def ofString? (text : String) : Option Regex := do
  let reader ← Reader.readFrom? text.length {} text.toList
  let part := reader.group.whole
  if reader.outer.isEmpty && part.depth ≤ greatestDepth && !part.regex.isTooLarge then
    some part.regex
  else none

end OpcodeTables.Regex
