import OpcodeTables.Text.Blank
import OpcodeTables.Text.CharSet.LetterCase

/-!
# Flags of regular expressions

Flags say how the text of a regular expression is read from some place on.
-/

namespace OpcodeTables.Regex

/-- What can be switched on and off in an expression. -/
structure Flags where
  /-- Letters match in either case. -/
  anyCase : Bool := false
  /-- `^` and `$` match at the ends of lines. -/
  multiLine : Bool := false
  /-- `.` matches the ends of lines too. -/
  dotMatchesAll : Bool := false
  /-- A carriage return ends a line too. -/
  returns : Bool := false
  /-- Classes know characters beyond ASCII. -/
  isUnicode : Bool := true
  /-- Blanks and comments do not count. -/
  isSpaced : Bool := false

/-- What stands behind blanks and comments.  A comment begins with a number sign and
ends with its line. -/
def behindBlanks (isComment : Bool) : List Char → List Char
  | [] => []
  | c :: rest =>
    if isComment then behindBlanks (c != '\n') rest
    else if Text.isBlank c then behindBlanks false rest
    else if c == '#' then behindBlanks true rest
    else c :: rest

namespace Flags

/-- The text from the next character that counts. -/
def skip (flags : Flags) (text : List Char) : List Char :=
  if flags.isSpaced then behindBlanks false text else text

/-- The characters that count up to a closing brace, and the text behind the brace,
in at most the given number of steps. -/
def braced? (flags : Flags) : (steps : Nat) → List Char → Option (List Char × List Char)
  | 0, _ => none
  | steps + 1, text =>
    match flags.skip text with
    | [] => none
    | '\x7d' :: rest => some ([], rest)
    | c :: rest => (flags.braced? steps rest).map fun (found, behind) => (c :: found, behind)

/-- A set that is read with or without regard to letter case.  Without Unicode, only
ASCII letters have a case. -/
def fold (flags : Flags) (set : CharSet) : CharSet :=
  if !flags.anyCase then set
  else if flags.isUnicode then set.anyCase
  else if set.isAscii then set.anyCase.intersection .ascii
  else set

/-- A set that a part of a bracketed class stands for.  Without Unicode, such a set
may hold ASCII characters only. -/
def foldAndNegate? (flags : Flags) (isNegated : Bool) (set : CharSet) : Option CharSet :=
  let folded := flags.fold set
  let accepted := if isNegated then folded.complement else folded
  if flags.isUnicode || accepted.isAscii then some accepted else none

/-- The characters that `.` stands for. -/
def dot? (flags : Flags) : Option CharSet :=
  if !flags.isUnicode then none
  else if flags.dotMatchesAll then some .all
  else if flags.returns then some ((CharSet.ofChar '\n').union (.ofChar '\r')).complement
  else some (CharSet.ofChar '\n').complement

end Flags

end OpcodeTables.Regex
