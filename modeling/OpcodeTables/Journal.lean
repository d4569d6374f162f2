/-!
# Log events

The program reports what it does as events.  An event names the area of the
program it comes from, and a filter chooses by area and level which events
are shown.
-/

namespace OpcodeTables

/-- How severe an event is. -/
inductive Level where
  | error
  | warn
  | info
  | debug
  | trace
  deriving DecidableEq, Repr

namespace Level

/-- The number of levels that are at least as severe. -/
def rank : Level → Nat
  | .error => 1
  | .warn => 2
  | .info => 3
  | .debug => 4
  | .trace => 5

def label : Level → String
  | .error => "ERROR"
  | .warn => "WARN"
  | .info => "INFO"
  | .debug => "DEBUG"
  | .trace => "TRACE"

/-- The levels, the most severe one first. -/
def all : List Level := [.error, .warn, .info, .debug, .trace]

end Level

/-- The part of the program that reports an event. -/
inductive Area where
  | generation
  | output
  | catalogue
  | sources
  | program
  deriving DecidableEq, Repr

/-- The name under which filters know an area. -/
def Area.target : Area → String
  | .generation => "opcode_tablegen"
  | .output => "opcode_tablegen::output"
  | .catalogue => "opcode_tablegen::scanner::accumulator"
  | .sources => "opcode_tablegen::scanner::files"
  | .program => "tablegen"

/-- One message to the log. -/
structure Event where
  level : Level
  area : Area
  message : String
  deriving DecidableEq, Repr

/-- The event as a log shows it, without the end of the line. -/
def Event.text (event : Event) : String :=
  "[" ++ event.level.label ++ "] " ++ event.message

end OpcodeTables
