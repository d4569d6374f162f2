import OpcodeTables.Regex.Escape

/-!
# Classes in brackets

A class in brackets holds characters, ranges, escaped sets, classes with names
such as `[:alpha:]`, and further classes in brackets.  Between them may stand
operators, which take all that stands on either side.
-/

namespace OpcodeTables.Regex

/-- A set with the depth to which the classes in it are nested. -/
structure Nested where
  set : CharSet
  depth : Nat := 0

/-- What connects two parts of a bracketed class. -/
inductive ClassOperator where
  | intersection
  | difference
  | symmetricDifference

def ClassOperator.apply : ClassOperator → CharSet → CharSet → CharSet
  | intersection => CharSet.intersection
  | difference => CharSet.difference
  | symmetricDifference => CharSet.symmetricDifference

/-- A class whose closing bracket is still to come. -/
structure OpenClass where
  isNegated : Bool
  /-- What stands in front of the last operator, and this operator. -/
  left : Option (Nested × ClassOperator) := none
  /-- What was read since, the last part first. -/
  items : List Nested := []

namespace OpenClass

def add (frame : OpenClass) (item : Nested) : OpenClass :=
  { frame with items := item :: frame.items }

/-- What was read since the last operator, as one part. -/
def right (frame : OpenClass) : Nested :=
  match frame.items with
  | [] => ⟨.empty, 0⟩
  | [item] => item
  | items => ⟨.unionAll (items.map (·.set)), (items.map (·.depth)).foldl max 0 + 1⟩

/-- All that was read of a class: the part in front of the last operator and the one
behind it. -/
def combined (flags : Flags) (frame : OpenClass) : Nested :=
  match frame.left with
  | none => frame.right
  | some (left, operator) =>
    ⟨operator.apply (flags.fold left.set) (flags.fold frame.right.set),
      max left.depth frame.right.depth + 1⟩

/-- Goes on behind an operator. -/
def operate (flags : Flags) (frame : OpenClass) (operator : ClassOperator) : OpenClass :=
  { frame with left := some (frame.combined flags, operator), items := [] }

/-- The class as a part of the one around it. -/
def close? (flags : Flags) (frame : OpenClass) : Option Nested :=
  let inner := frame.combined flags
  (flags.foldAndNegate? frame.isNegated inner.set).map fun set => ⟨set, inner.depth + 1⟩

end OpenClass

namespace Bracketed

/-! ## Parts -/

/-- Reads dashes. -/
def dashes (flags : Flags) : (steps : Nat) → List Char → Nat × List Char
  | steps + 1, '-' :: rest =>
    let (count, behind) := dashes flags steps (flags.skip rest)
    (count + 1, behind)
  | _, text => (0, text)

/-- Begins a class behind its opening bracket.  Dashes at the start, or else a
closing bracket there, stand for themselves. -/
def start (flags : Flags) (text : List Char) : OpenClass × List Char :=
  let (isNegated, text) := match flags.skip text with
    | '^' :: rest => (true, flags.skip rest)
    | text => (false, text)
  match dashes flags text.length text with
  | (0, ']' :: rest) => (⟨isNegated, none, [⟨.ofChar ']', 0⟩]⟩, rest)
  | (count, rest) => (⟨isNegated, none, List.replicate count ⟨.ofChar '-', 0⟩⟩, rest)

/-- The classes that are written with a name between `[:` and `:]`. -/
def named : List (String × String) :=
  [("alnum", "30-39 41-5A 61-7A"),
    ("alpha", "41-5A 61-7A"),
    ("ascii", "0-7F"),
    ("blank", "9 20"),
    ("cntrl", "0-1F 7F"),
    ("digit", "30-39"),
    ("graph", "21-7E"),
    ("lower", "61-7A"),
    ("print", "20-7E"),
    ("punct", "21-2F 3A-40 5B-60 7B-7E"),
    ("space", "9-D 20"),
    ("upper", "41-5A"),
    ("word", "30-39 41-5A 5F 61-7A"),
    ("xdigit", "30-39 41-46 61-66")]

/-- Reads a class with a name behind its opening bracket; says too whether it is
negated. -/
def named? (text : List Char) : Option (CharSet × Bool × List Char) := do
  let text ← Text.after? [':'] text
  let (isNegated, text) := match text with
    | '^' :: rest => (true, rest)
    | _ => (false, text)
  let rest ← Text.after? [':', ']'] (text.dropWhile Char.isAlpha)
  let name := String.ofList (text.takeWhile Char.isAlpha)
  let (_, table) ← named.find? fun entry => entry.1 == name
  return (.ofTable table, isNegated, rest)

/-- Reads one character or set. -/
def item? (flags : Flags) : List Char → Option (Escape × List Char)
  | [] => none
  | '\\' :: rest => Escape.read? flags rest
  | c :: rest => some (.char c, rest)

/-- A character as a part of a class.  Without Unicode, it has to be an ASCII one. -/
def literal? (flags : Flags) : Escape → Option Char
  | .char c | .byte c => if flags.isUnicode || c.toNat < 0x80 then some c else none
  | .set _ | .anchor _ => none

def single? (flags : Flags) (item : Escape) : Option CharSet :=
  match item with
  | .set accepted => some accepted
  | item => (literal? flags item).map CharSet.ofChar

/-- The next character behind blanks and at most one number sign. -/
def peek? (flags : Flags) (text : List Char) : Option Char :=
  if flags.isSpaced then
    match text.dropWhile Text.isBlank with
    | '#' :: rest => (rest.dropWhile Text.isBlank).head?
    | rest => rest.head?
  else text.head?

/-- Reads a character, a range or a set.  A dash makes a range unless a bracket or
another dash follows it. -/
def range? (flags : Flags) (text : List Char) : Option (CharSet × List Char) := do
  let (item, rest) ← item? flags text
  match flags.skip rest with
  | '-' :: behind =>
    if peek? flags behind = some ']' ∨ peek? flags behind = some '-' then
      return (← single? flags item, '-' :: behind)
    let (lastItem, rest) ← item? flags (flags.skip behind)
    let first ← literal? flags item
    let last ← literal? flags lastItem
    if first ≤ last then return (.ofRange first last, rest) else none
  | rest => return (← single? flags item, rest)

/-! ## Whole classes -/

/-- Reads on in a class, which lies in the classes `outer`, up to the closing
bracket of the outermost one, in at most the given number of steps. -/
def readFrom? (flags : Flags) :
    (steps : Nat) → OpenClass → List OpenClass → List Char → Option (Nested × List Char)
  | 0, _, _, _ => none
  | steps + 1, frame, outer, text =>
    match flags.skip text with
    | ']' :: rest => do
      let inner ← frame.close? flags
      match outer with
      | [] => return (inner, rest)
      | above :: outer => readFrom? flags steps (above.add inner) outer rest
    | '[' :: rest =>
      match named? rest with
      | some (set, isNegated, rest) => do
        let set ← flags.foldAndNegate? isNegated set
        readFrom? flags steps (frame.add ⟨set, 0⟩) outer rest
      | none =>
        let (inner, rest) := start flags rest
        readFrom? flags steps inner (frame :: outer) rest
    | '&' :: '&' :: rest => readFrom? flags steps (frame.operate flags .intersection) outer rest
    | '-' :: '-' :: rest => readFrom? flags steps (frame.operate flags .difference) outer rest
    | '~' :: '~' :: rest =>
      readFrom? flags steps (frame.operate flags .symmetricDifference) outer rest
    | text => do
      let (set, rest) ← range? flags text
      readFrom? flags steps (frame.add ⟨set, 0⟩) outer rest

/-- Reads a class behind its opening bracket.  Every step takes up a part of the
text. -/
def read? (flags : Flags) (text : List Char) : Option (Nested × List Char) :=
  let (frame, rest) := start flags text
  readFrom? flags (text.length + 1) frame [] rest

end Bracketed

end OpcodeTables.Regex
