import OpcodeTables.Regex

/-!
# Sizes of automata

A regular expression stands for an automaton that reads the bytes of a text, one
for each direction.  An expression counts as too large when one of the automata
takes more than ten mebibytes.  The sizes are counted in bytes.
-/

namespace OpcodeTables

namespace CharSet

def isSingle (set : CharSet) : Bool :=
  match set.ranges with
  | [(first, last)] => first == last
  | _ => false

/-- A range of values that a byte may have. -/
abbrev ByteRange := Nat × Nat

/-- The code points from `first` to `last`, of which all but the lowest `digits`
groups of six bits are written by the leading byte, as sequences of ranges. -/
def sequencesBelow (lead : Nat) : (digits first last : Nat) → List (List ByteRange)
  | 0, first, last => [[(lead + first, lead + last)]]
  | digits + 1, first, last =>
    let unit := 1 <<< (6 * (digits + 1))
    let low := first / unit
    let high := last / unit
    let behind (start finish : Nat) : List (List ByteRange) :=
      sequencesBelow 0x80 digits start finish
    if low = high then
      (behind (first % unit) (last % unit)).map ((lead + low, lead + low) :: ·)
    else
      let isLowWhole := first % unit = 0
      let isHighWhole := last % unit = unit - 1
      let firstWhole := if isLowWhole then low else low + 1
      let lastWhole := if isHighWhole then high + 1 else high
      (if isLowWhole then []
        else (behind (first % unit) (unit - 1)).map ((lead + low, lead + low) :: ·)) ++
      (if firstWhole < lastWhole then
        (behind 0 (unit - 1)).map ((lead + firstWhole, lead + lastWhole - 1) :: ·)
        else []) ++
      (if isHighWhole then []
        else (behind 0 (last % unit)).map ((lead + high, lead + high) :: ·))

/-- The stretches of code points whose texts have one, two, three and four bytes:
the first and the last code point, what the leading byte begins with, and the
number of bytes behind it. -/
def textLengths : List (Nat × Nat × Nat × Nat) :=
  [(0, 0x7F, 0, 0), (0x80, 0x7FF, 0xC0, 1), (0x800, 0xD7FF, 0xE0, 2), (0xE000, 0xFFFF, 0xE0, 2),
    (0x10000, greatestCodePoint, 0xF0, 3)]

/-- The texts of the characters of a set, in ascending order. -/
def byteSequences (set : CharSet) : List (List ByteRange) :=
  set.ranges.flatMap fun (first, last) =>
    textLengths.flatMap fun (least, greatest, lead, digits) =>
      if max first least ≤ min last greatest then
        sequencesBelow lead digits (max first least) (min last greatest)
      else []

/-- The number of elements that two lists begin with in common. -/
def sharedLength : List ByteRange → List ByteRange → Nat
  | first :: firstRest, second :: secondRest =>
    if first = second then sharedLength firstRest secondRest + 1 else 0
  | _, _ => 0

/-- The number of different beginnings of some ascending sequences. -/
def beginnings : List ByteRange → List (List ByteRange) → Nat
  | _, [] => 0
  | previous, sequence :: rest =>
    (sequence.length - sharedLength previous sequence) + beginnings sequence rest

/-- What may follow each leading range of some ascending sequences. -/
def endings : List (List ByteRange) → List (ByteRange × List (List ByteRange))
  | [] => []
  | [] :: rest => endings rest
  | (lead :: tail) :: rest =>
    match endings rest with
    | (next, tails) :: others =>
      if next = lead then (lead, tail :: tails) :: others
      else (lead, [tail]) :: (next, tails) :: others
    | [] => [(lead, [tail])]

/-- The sets of sequences that may follow a beginning of at most the given length. -/
def continuations : (length : Nat) → List (List ByteRange) → List (List (List ByteRange))
  | 0, _ => []
  | length + 1, sequences =>
    sequences :: (endings sequences).flatMap fun (_, tails) => continuations length tails

end CharSet

namespace Regex

/-- The direction in which an automaton reads a text. -/
inductive Direction where
  | forwards
  | backwards

/-- The size of a state without its transitions. -/
def stateSize : Nat := 32

def transitionSize : Nat := 8

/-- The size of what leads to one of several states. -/
def branchSize : Nat := 4

/-- The size of the states for one character.  Forwards, equal states are shared;
backwards, only those are that follow equal beginnings. -/
def charSize (direction : Direction) (accepted : CharSet) : Nat :=
  let sequences := accepted.byteSequences
  if CharSet.isSingle accepted then stateSize * sequences.flatten.length
  else if accepted.isAscii then 2 * stateSize + transitionSize * sequences.length
  else
    match direction with
    | .forwards =>
      let states := ((CharSet.continuations 4 sequences).eraseDups.map CharSet.endings).filter
        fun transitions => !transitions.isEmpty
      stateSize * (states.length + 1) + transitionSize * states.flatten.length
    | .backwards =>
      2 * stateSize + branchSize * sequences.length +
        stateSize * CharSet.beginnings [] sequences

/-- Whether the expression matches nothing but empty stretches. -/
def isEmptyOnly : Regex → Bool
  | empty | anchor _ => true
  | char _ => false
  | sequence first second | either first second => first.isEmptyOnly && second.isEmptyOnly
  | repeated _ most body => most == some 0 || body.isEmptyOnly
  | group body => body.isEmptyOnly

/-- Whether an empty stretch may match. -/
def mayBeEmpty : Regex → Bool
  | empty | anchor _ => true
  | char _ => false
  | sequence first second => first.mayBeEmpty && second.mayBeEmpty
  | either first second => first.mayBeEmpty || second.mayBeEmpty
  | repeated least _ body => least == 0 || body.mayBeEmpty
  | group body => body.mayBeEmpty

/-- The size of repetitions of a part of the given size. -/
def repeatedSize (mayBeEmpty : Bool) (size : Nat) (least : Nat) (most : Option Nat) : Nat :=
  let loop := stateSize + 2 * branchSize
  match least, most with
  | 0, some 0 => 0
  | 0, none => if mayBeEmpty then 2 * loop + stateSize + size else loop + size
  | 0, some 1 => loop + stateSize + size
  | least, none => least * size + loop
  | least, some most =>
    if least = most then least * size
    else least * size + stateSize + (most - least) * (loop + size)

/-- The size of the states for an expression: by itself, and as one of several
alternatives. -/
def sizes (direction : Direction) : Regex → Nat × Nat
  | empty => (0, stateSize + branchSize)
  | char accepted => single (charSize direction accepted)
  | anchor _ => single stateSize
  | sequence first second => single ((first.sizes direction).1 + (second.sizes direction).1)
  | either first second =>
    let alternatives := (first.sizes direction).2 + (second.sizes direction).2
    (2 * stateSize + alternatives, alternatives)
  | repeated least most body =>
    let size := max stateSize (body.sizes direction).1
    if body.isEmptyOnly then
      single (repeatedSize true size (min 1 least) (some (min 1 (most.getD 1))))
    else single (repeatedSize body.mayBeEmpty size least most)
  | group body =>
    let size := max stateSize (body.sizes direction).1
    match direction with
    | .forwards => single (2 * stateSize + size)
    | .backwards => single size
where
  single (size : Nat) : Nat × Nat := (size, max stateSize size + branchSize)

/-- The size of the automaton in one direction, with what finds the start of a
match and remembers its stretch. -/
def automatonSize (regex : Regex) (direction : Direction) : Nat :=
  let search := 3 * stateSize + transitionSize + 2 * branchSize
  let stretch := match direction with
    | .forwards => 2 * stateSize
    | .backwards => 0
  search + stretch + stateSize + (regex.sizes direction).1

/-- The greatest size that an automaton may have. -/
def greatestSize : Nat := 10 * 1024 * 1024

/-- Whether the automaton would be too large in either direction. -/
def isTooLarge (regex : Regex) : Bool :=
  regex.automatonSize .forwards > greatestSize || regex.automatonSize .backwards > greatestSize

end Regex

end OpcodeTables
