/-!
# Control sequences

A text may hold characters that steer a terminal: an escape character with what
follows it up to the end of the sequence, and single control characters.  Where
a text is not shown by a terminal these are left out.  Line feeds, carriage
returns, tabs and form feeds are shown, even inside a sequence.
-/

namespace OpcodeTables.Text

/-- Where a character stands among control sequences. -/
inductive SequenceState where
  | outside
  | escape
  | escapeIntermediate
  /-- Behind `ESC [`, up to a final letter or sign. -/
  | control
  /-- Behind `ESC P`, in front of the data of a device control string. -/
  | deviceEntry
  | deviceParameters
  | deviceIntermediate
  /-- In a string that ends with the byte `9C` or with another sequence. -/
  | string
  /-- In a command to the operating system, behind `ESC ]`, up to a bell. -/
  | command
  deriving DecidableEq, Repr

def isBetween (least greatest c : Char) : Bool := least ≤ c && c ≤ greatest

namespace SequenceState

/-- The state behind the character at the start of an escape sequence. -/
def afterEscape (c : Char) : SequenceState :=
  if c = '[' then .control
  else if c = ']' then .command
  else if c = 'P' then .deviceEntry
  else if c = 'X' ∨ c = '^' ∨ c = '_' then .string
  else if isBetween ' ' '/' c then .escapeIntermediate
  else if isBetween '0' '~' c then .outside
  else .escape

/-- The state behind a character.  An escape begins a new sequence wherever it
stands, and the characters `CAN` and `SUB` end any. -/
def next (state : SequenceState) (c : Char) : SequenceState :=
  if c = '\x1b' then .escape
  else if c = '\x18' ∨ c = '\x1a' then .outside
  else
    match state with
    | .outside => .outside
    | .escape => afterEscape c
    | .escapeIntermediate => if isBetween '0' '~' c then .outside else .escapeIntermediate
    | .control => if isBetween '@' '~' c then .outside else .control
    | .deviceEntry =>
      if isBetween ' ' '/' c then .deviceIntermediate
      else if isBetween '0' '?' c then .deviceParameters
      else if isBetween '@' '~' c then .string
      else .deviceEntry
    | .deviceParameters =>
      if isBetween ' ' '/' c then .deviceIntermediate
      else if isBetween '<' '~' c then .string
      else .deviceParameters
    | .deviceIntermediate => if isBetween '0' '~' c then .string else .deviceIntermediate
    | .string => if (String.utf8EncodeChar c).contains 0x9C then .outside else .string
    | .command => if c = '\x07' then .outside else .command

def isShownControl (c : Char) : Bool := c == '\t' || c == '\n' || c == '\x0c' || c == '\r'

/-- Whether a character in a state is shown. -/
def shows : SequenceState → Char → Bool
  | .outside, c => isShownControl c || (' ' ≤ c && c != '\x7f')
  | .escape, c | .escapeIntermediate, c | .control, c => isShownControl c
  | _, _ => false

end SequenceState

/-- What becomes of a text. -/
inductive Medium where
  /-- It is kept as a text. -/
  | text
  /-- It is written to a stream. -/
  | stream
  deriving DecidableEq, Repr

/-- Leaves out what steers a terminal, from a place on.  A character that is
shown inside a sequence breaks the sequence off, and what follows is judged as
if outside until a character is hidden; a stream takes up the sequence again
there, unless a character beyond `DEL` was shown. -/
def shownFrom (medium : Medium) (isShowing : Bool) (state : SequenceState) :
    List Char → List Char
  | [] => []
  | c :: rest =>
    if (if isShowing then SequenceState.outside else state).shows c then
      let behind := if medium = .stream ∧ c.toNat < 128 then state else .outside
      c :: shownFrom medium true behind rest
    else shownFrom medium false (state.next c) rest

/-- A text without what steers a terminal. -/
def shown (medium : Medium) (text : String) : String :=
  String.ofList (shownFrom medium false .outside text.toList)

end OpcodeTables.Text
