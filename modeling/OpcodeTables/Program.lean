import OpcodeTables.CommandLine.Texts
import OpcodeTables.Generation

/-!
# The program

The whole program as a function of its words, its log filter and the file
system.
-/

namespace OpcodeTables.Program

/-- What a call of the program leaves behind. -/
structure Outcome where
  exitCode : Nat
  standardOutput : String
  standardError : String
  files : FileSystem

/-- Opens the log file.  What it held is lost. -/
def openLog (files : FileSystem) (filter : LogFilter) (path : String) : Except FileError World := do
  let location ← files.writeTarget path
  return ⟨files.put location (.file []), [], some ⟨location, 0, filter⟩⟩

/-- The world in which a run begins, with its log file opened if there is one. -/
def start (options : Options) (filter : LogFilter) (files : FileSystem) :
    Except FileError World :=
  match options.logPath with
  | none => .ok { files }
  | some path => openLog files filter path

/-- The log on the error output: empty if there is a log file. -/
def logText (options : Options) (filter : LogFilter) (world : World) : String :=
  match options.logPath with
  | none => String.join ((world.events.filter filter.shows).map World.logLine)
  | some _ => ""

def failureEvent (failure : Failure) : Event where
  level := .error
  area := .program
  message := failure.message

def successText (options : Options) : String :=
  if options.check then "Generated files are up to date.\n" else "Done generating mapping files.\n"

/-- A run and what it leaves behind: exit code, output and files. -/
def runOptions (options : Options) (filter : LogFilter) (files : FileSystem) : Outcome :=
  match start options filter files with
  | .error error => ⟨1, "", "Failed to set up logging: " ++ error.text ++ "\n", files⟩
  | .ok world =>
    match Generation.run options world with
    | (.ok _, world) => ⟨0, successText options, logText options filter world, world.files⟩
    | (.error failure, world) =>
      let world := world.report (failureEvent failure)
      ⟨1, "", logText options filter world, world.files⟩

/-- A call of the program: the word by which it is called, the words behind it,
and the text of the log filter if one is set. -/
def call (called : Option String) (words : List String) (filterText : Option String)
    (files : FileSystem) : Outcome :=
  let program := CommandLine.programName called
  match CommandLine.parse words with
  | .error (.question question) =>
    ⟨0, CommandLine.Refusal.text .stream program (.question question), "", files⟩
  | .error refusal => ⟨2, "", refusal.text .stream program, files⟩
  | .ok options =>
    let filter := (filterText.map LogFilter.parse).getD LogFilter.standard
    runOptions options filter files

end OpcodeTables.Program
