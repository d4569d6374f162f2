import OpcodeTables.Journal
import OpcodeTables.Regex.Reader
import OpcodeTables.Text.Blank

/-!
# Log filters

A filter is a list of directives separated by commas and, behind a slash, a
regular expression.  A directive is a level, or the start of a target and, behind
an equals sign, a level.  Of the directives whose start fits the target of an
event the longest one decides, and where none fits the event is not shown.  A
message that the expression does not match is not shown either.
-/

namespace OpcodeTables

/-- A rule of a filter: the least severe level that is shown for some targets. -/
structure Directive where
  /-- What the target has to begin with, if the directive is not for all. -/
  target : Option String
  /-- The rank of the least severe level that is shown, 0 if none is. -/
  rank : Nat
  deriving DecidableEq, Repr

namespace Directive

def fits (directive : Directive) (target : String) : Bool :=
  directive.target.all fun start => start.toList.isPrefixOf target.toList

def length (directive : Directive) : Nat := (directive.target.getD "").length

/-- Puts a directive in place of the one for the same target, or behind all
others. -/
def place (directive : Directive) : List Directive → List Directive
  | [] => [directive]
  | other :: rest =>
    if other.target = directive.target then directive :: rest else other :: place directive rest

end Directive

/-- Which events a log shows. -/
structure LogFilter where
  directives : List Directive
  pattern : Option Regex := none
  deriving DecidableEq, Repr

namespace LogFilter

/-- The rank that a level stands for, in either case of letters. -/
def rank? (text : String) : Option Nat :=
  let label := text.map Char.toUpper
  if label = "OFF" then some 0
  else (Level.all.find? fun level => level.label = label).map Level.rank

def trim (text : List Char) : List Char :=
  ((text.dropWhile Text.isBlank).reverse.dropWhile Text.isBlank).reverse

/-- Reads one directive.  A target without a level shows every level; what
cannot be read is passed over. -/
def directive? (text : List Char) : Option Directive :=
  match text.splitOn '=' with
  | [[]] => none
  | [single] =>
    match rank? (String.ofList single) with
    | some rank => some ⟨none, rank⟩
    | none => some ⟨some (String.ofList single), Level.trace.rank⟩
  | [target, level] =>
    if trim level = [] then some ⟨some (String.ofList target), Level.trace.rank⟩
    else
      (rank? (String.ofList (trim level))).map fun rank => ⟨some (String.ofList target), rank⟩
  | _ => none

/-- Reads directives.  Without any, errors are shown. -/
def readDirectives (text : List Char) : List Directive :=
  let found := (text.splitOn ',').filterMap fun part => directive? (trim part)
  match found.foldl (fun directives directive => directive.place directives) [] with
  | [] => [⟨none, Level.error.rank⟩]
  | directives => directives

/-- Reads a filter.  A text with several slashes is passed over as a whole, and
so is an expression that cannot be read. -/
def parse (text : String) : LogFilter :=
  match text.toList.splitOn '/' with
  | [found] => ⟨readDirectives found, none⟩
  | [found, pattern] => ⟨readDirectives found, Regex.ofString? (String.ofList pattern)⟩
  | _ => ⟨readDirectives [], none⟩

/-- The filter that applies unless another one is asked for. -/
def standard : LogFilter := ⟨[⟨none, Level.info.rank⟩], none⟩

/-- The directive that decides about a target: the last of the longest that
fit. -/
def deciding? (filter : LogFilter) (target : String) : Option Directive :=
  filter.directives.foldl (fun best directive =>
    if directive.fits target ∧ best.all (·.length ≤ directive.length) then some directive
    else best) none

/-- Whether an event is shown: its level and, if there is an expression, its message
decide. -/
def shows (filter : LogFilter) (event : Event) : Bool :=
  match filter.deciding? event.area.target with
  | none => false
  | some directive =>
    event.level.rank ≤ directive.rank && filter.pattern.all (·.isMatch event.message)

end LogFilter

end OpcodeTables
