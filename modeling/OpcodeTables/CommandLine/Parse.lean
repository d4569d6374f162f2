import OpcodeTables.CommandLine.Words

/-!
# Reading the command line

Words are read from left to right.  An option's value is the text behind an
equals sign or the next word, unless that begins with a dash and is longer than
one.  A value in a word of its own is looked at only when the next known option
or flag is met, or the words end: a word that the program does not know, met
before that, is reported in its place.

A refusal keeps the options and flags given before it, from which the usage line
below its message is made.
-/

namespace OpcodeTables.CommandLine

/-- An option with its value, or a flag, as the words give it. -/
inductive Setting where
  | value (option : ValueOption) (value : String)
  | flag (flag : Flag)
  deriving DecidableEq, Repr

namespace Setting

/-- The word that a setting is given by. -/
def known : Setting → Known
  | .value option _ => .value option
  | .flag chosen => .flag chosen

/-- The options with a setting taken into account. -/
def apply (options : Options) : Setting → Options
  | .value option given => option.set options given
  | .flag chosen => chosen.set options

end Setting

/-- Why the words do not ask for a run. -/
inductive Refusal where
  /-- A word behind two dashes that names nothing, and what was given before. -/
  | unknownOption (name : String) (given : List Known)
  | unknownWord (word : String)
  | missingValue (option : ValueOption)
  | repeated (known : Known)
  /-- A value is attached to a word that takes none. -/
  | unexpectedValue (known : Known) (value : String) (given : List Known)
  | question (question : Question)
  deriving DecidableEq, Repr

/-- What the words gave so far, in their order. -/
abbrev Given := List Setting

namespace Given

def known (given : Given) : List Known := given.map Setting.known

/-- Takes over an option with its value.  No option is given twice, and no path is
empty. -/
def addValue (given : Given) (option : ValueOption) (value : String) : Except Refusal Given :=
  if given.known.contains (.value option) then .error (.repeated (.value option))
  else if option.isPath && value == "" then .error (.missingValue option)
  else .ok (given ++ [.value option value])

/-- Takes over a flag, which is not given twice. -/
def addFlag (given : Given) (flag : Flag) : Except Refusal Given :=
  if given.known.contains (.flag flag) then .error (.repeated (.flag flag))
  else .ok (given ++ [.flag flag])

/-- The options that the words ask for so far. -/
def options (given : Given) : Options := given.foldl Setting.apply {}

end Given

/-- An option whose value is still to come, or has come in a word of its own and
is still to be looked at. -/
inductive Pending where
  | none
  | awaits (option : ValueOption)
  | holds (option : ValueOption) (value : String)
  deriving DecidableEq, Repr

/-- Takes over a pending value. -/
def settle (given : Given) : Pending → Except Refusal Given
  | .none => .ok given
  | .awaits option => .error (.missingValue option)
  | .holds option value => given.addValue option value

/-- What was given in front of a word that names nothing.  A value that was still
to be looked at counts whatever it is, but a second value for an option takes
the option away. -/
def knownBefore (given : Given) : Pending → List Known
  | .none => given.known
  | .awaits _ => given.known
  | .holds option _ =>
    if given.known.contains (.value option) then given.known.filter (· != .value option)
    else given.known ++ [.value option]

/-- A word of the command line, by the dashes that it begins with. -/
inductive Word where
  /-- Two dashes: all that follows is text. -/
  | separator
  | long (name : String) (value : Option String)
  /-- A dash and letters, the first of which is given. -/
  | short (letter : Char)
  | text (text : String)
  deriving DecidableEq, Repr

/-- The name and the value of a word, without the dashes in front. -/
def longWord (text : List Char) : Word :=
  match text.dropWhile (· != '=') with
  | [] => .long (String.ofList text) none
  | _ :: value => .long (String.ofList (text.takeWhile (· != '='))) (some (String.ofList value))

/-- A dash alone is a text and no option. -/
def Word.ofString (word : String) : Word :=
  match word.toList with
  | ['-', '-'] => .separator
  | '-' :: '-' :: rest => longWord rest
  | '-' :: letter :: _ => .short letter
  | _ => .text word

/-- Reads a word behind two dashes.  A name that is not known is refused before a pending
value is looked at. -/
def readLong (given : Given) (pending : Pending) (name : String) (value : Option String) :
    Except Refusal (Given × Pending) :=
  match Known.ofName? name, value with
  | none, _ => .error (.unknownOption name (knownBefore given pending))
  | some (.value option), some value => do
    let given ← settle given pending
    return (← given.addValue option value, .none)
  | some (.value option), none => do
    return (← settle given pending, .awaits option)
  | some (.flag flag), none => do
    let given ← settle given pending
    return (← given.addFlag flag, .none)
  | some (.question question), none => do
    let _ ← settle given pending
    throw (.question question)
  | some known, some value => .error (.unexpectedValue known value given.known)

/-- Reads a letter behind one dash, which can only ask a question. -/
def readShort (given : Given) (pending : Pending) (letter : Char) :
    Except Refusal (Given × Pending) :=
  match Question.all.find? fun question => question.letter == letter with
  | none => .error (.unknownWord (String.ofList ['-', letter]))
  | some question => do
    let _ ← settle given pending
    throw (.question question)

/-- Reads the words behind those that gave `given` and left `pending`. -/
def readWords (given : Given) (pending : Pending) : List String → Except Refusal Given
  | [] => settle given pending
  | word :: rest =>
    match Word.ofString word with
    | .separator =>
      match rest with
      | [] => settle given pending
      | next :: _ => .error (.unknownWord next)
    | .long name value => do
      let (given, pending) ← readLong given pending name value
      readWords given pending rest
    | .short letter => do
      let (given, pending) ← readShort given pending letter
      readWords given pending rest
    | .text text =>
      match pending with
      | .awaits option => readWords given (.holds option text) rest
      | _ => .error (.unknownWord text)

/-- The options that the words behind the program's name ask for. -/
def parse (words : List String) : Except Refusal Options :=
  (readWords [] .none words).map Given.options

end OpcodeTables.CommandLine
