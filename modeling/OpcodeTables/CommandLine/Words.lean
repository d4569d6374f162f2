import OpcodeTables.Options

/-!
# The words of the command line

The options and flags that the program knows, by their names.
-/

namespace OpcodeTables.CommandLine

/-- An option that takes a value. -/
inductive ValueOption where
  | sourceDirectory
  | pattern
  | dispatchPath
  | disassemblyPath
  | moduleRoot
  | cpuPath
  | reportPath
  | logPath
  deriving DecidableEq, Repr

namespace ValueOption

def all : List ValueOption :=
  [.sourceDirectory, .pattern, .dispatchPath, .disassemblyPath, .moduleRoot, .cpuPath,
    .reportPath, .logPath]

/-- The name behind the two dashes. -/
def name : ValueOption → String
  | .sourceDirectory => "source-dir"
  | .pattern => "pattern"
  | .dispatchPath => "opcodes-out"
  | .disassemblyPath => "disasm-out"
  | .moduleRoot => "module-root"
  | .cpuPath => "cpu-path"
  | .reportPath => "report"
  | .logPath => "log-path"

/-- What stands for the value in the help: the option's name in capitals. -/
def placeholder (option : ValueOption) : String :=
  option.name.map fun c => if c = '-' then '_' else c.toUpper

/-- The option as messages show it. -/
def usage (option : ValueOption) : String :=
  "--" ++ option.name ++ " <" ++ option.placeholder ++ ">"

/-- Whether the value is a path, which cannot be empty. -/
def isPath : ValueOption → Bool
  | .sourceDirectory | .dispatchPath | .disassemblyPath | .reportPath | .logPath => true
  | .pattern | .moduleRoot | .cpuPath => false

/-- The options of a run with the value of one of them set. -/
def set (options : Options) (value : String) : ValueOption → Options
  | .sourceDirectory => { options with sourceDirectory := value }
  | .pattern => { options with pattern := value }
  | .dispatchPath => { options with dispatchPath := value }
  | .disassemblyPath => { options with disassemblyPath := value }
  | .moduleRoot => { options with importPaths := { options.importPaths with moduleRoot := value } }
  | .cpuPath => { options with importPaths := { options.importPaths with cpuPath := value } }
  | .reportPath => { options with reportPath := some value }
  | .logPath => { options with logPath := some value }

end ValueOption

/-- An option without a value. -/
inductive Flag where
  | denyDuplicates
  | check
  deriving DecidableEq, Repr

namespace Flag

def all : List Flag := [.denyDuplicates, .check]

def name : Flag → String
  | .denyDuplicates => "deny-duplicates"
  | .check => "check"

def set (options : Options) : Flag → Options
  | .denyDuplicates => { options with denyDuplicates := true }
  | .check => { options with check := true }

end Flag

/-- The flags that ask for a text in place of a run. -/
inductive Question where
  | help
  | version
  deriving DecidableEq, Repr

namespace Question

def all : List Question := [.help, .version]

def name : Question → String
  | .help => "help"
  | .version => "version"

/-- The letter behind a single dash. -/
def letter : Question → Char
  | .help => 'h'
  | .version => 'V'

end Question

/-- What the name behind two dashes stands for. -/
inductive Known where
  | value (option : ValueOption)
  | flag (flag : Flag)
  | question (question : Question)
  deriving DecidableEq, Repr

namespace Known

/-- The words that ask for a run, in the order in which texts list them: the log
file comes last. -/
def settings : List Known :=
  (ValueOption.all.filter (· != .logPath)).map .value ++ Flag.all.map .flag ++ [.value .logPath]

def all : List Known := settings ++ Question.all.map .question

def name : Known → String
  | .value option => option.name
  | .flag chosen => chosen.name
  | .question asked => asked.name

/-- The word as usage lines and messages show it. -/
def usage : Known → String
  | .value option => option.usage
  | .flag chosen => "--" ++ chosen.name
  | .question asked => "--" ++ asked.name

/-- The option, flag or question that has a name. -/
def ofName? (name : String) : Option Known := all.find? fun known => known.name == name

end Known

end OpcodeTables.CommandLine
