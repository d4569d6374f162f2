import OpcodeTables.Text.CharSet.Property

/-!
# Regular expressions

A regular expression matches stretches of a text.  A search keeps, for every
place of the text, whether a match that begins somewhere can have come as far as
there; each part of the expression moves these marks on, so the work is bounded
by the sizes of the expression and the text.
-/

namespace OpcodeTables

/-- A condition on the word characters on both sides of a place. -/
inductive WordCondition where
  | boundary
  | noBoundary
  | start
  | finish
  /-- No word character stands in front. -/
  | startHalf
  /-- No word character follows. -/
  | finishHalf
  deriving DecidableEq, Repr

/-- A condition on a place between two characters. -/
inductive Anchor where
  | textStart
  | textEnd
  /-- The start of a line; `returns` says whether a carriage return ends a line too. -/
  | lineStart (returns : Bool)
  | lineEnd (returns : Bool)
  /-- Only ASCII characters may count as word characters. -/
  | word (condition : WordCondition) (isAscii : Bool)
  deriving DecidableEq, Repr

/-- A regular expression. -/
inductive Regex where
  | empty
  | char (accepted : CharSet)
  | anchor (anchor : Anchor)
  | sequence (first second : Regex)
  | either (first second : Regex)
  | repeated (least : Nat) (most : Option Nat) (body : Regex)
  /-- A group whose stretch is remembered. -/
  | group (body : Regex)
  deriving DecidableEq, Repr

/-- A place in a text, by the characters around it. -/
structure Place where
  before : Option Char
  after : Option Char

def isWordCharacter (isAscii : Bool) (c : Char) : Bool :=
  if isAscii then c.isAlphanum || c == '_' else CharSet.word.contains c

/-- Whether the condition holds, given whether word characters stand on either side. -/
def WordCondition.holds : WordCondition → (isWordBefore isWordAfter : Bool) → Bool
  | boundary, isBefore, isAfter => isBefore != isAfter
  | noBoundary, isBefore, isAfter => isBefore == isAfter
  | start, isBefore, isAfter => !isBefore && isAfter
  | finish, isBefore, isAfter => isBefore && !isAfter
  | startHalf, isBefore, _ => !isBefore
  | finishHalf, _, isAfter => !isAfter

/-- Where a carriage return ends a line, it does so together with a line feed
behind it, and no line ends between the two. -/
def Anchor.holds (place : Place) : Anchor → Bool
  | textStart => place.before.isNone
  | textEnd => place.after.isNone
  | lineStart false => place.before.all (· == '\n')
  | lineStart true =>
    place.before.all (· == '\n') || place.before == some '\r' && place.after != some '\n'
  | lineEnd false => place.after.all (· == '\n')
  | lineEnd true =>
    place.after.all (· == '\r') || place.after == some '\n' && place.before != some '\r'
  | word condition isAscii =>
    condition.holds (place.before.any (isWordCharacter isAscii))
      (place.after.any (isWordCharacter isAscii))

namespace Regex

/-- The places of a text, from its start to its end. -/
def places (text : List Char) : List Place :=
  List.zipWith Place.mk (none :: text.map some) (text.map some ++ [none])

/-- Marks of places: whether a match can have come there. -/
abbrev Marks := List Bool

def both (first second : Marks) : Marks := List.zipWith (· || ·) first second

/-- Moves marks on the given number of times, or until they stay as they are. -/
def advance (move : Marks → Marks) : (count : Nat) → Marks → Marks
  | 0, marks => marks
  | count + 1, marks =>
    let next := move marks
    if next = marks then marks else advance move count next

/-- The places that a match of the expression reaches from the marked ones. -/
def reach (places : List Place) : Regex → Marks → Marks
  | empty, marks => marks
  | char accepted, marks =>
    (false :: List.zipWith (fun place mark => mark && place.after.any accepted.contains) places
      marks).take places.length
  | anchor condition, marks =>
    List.zipWith (fun place mark => mark && condition.holds place) places marks
  | sequence first second, marks => second.reach places (first.reach places marks)
  | either first second, marks => both (first.reach places marks) (second.reach places marks)
  | repeated least most body, marks =>
    let start := advance (body.reach places) least marks
    let more := match most with
      | some most => min (most - least) places.length
      | none => places.length
    advance (fun marks => both marks (body.reach places marks)) more start
  | group body, marks => body.reach places marks

/-- The characters that the expression accepts, if it stands for one character. -/
def accepted? : Regex → Option CharSet
  | char accepted => some accepted
  | _ => none

/-- Whether the expression matches a stretch of the text. -/
def isMatch (regex : Regex) (text : String) : Bool :=
  let places := places text.toList
  (regex.reach places (places.map fun _ => true)).any id

end Regex

end OpcodeTables
