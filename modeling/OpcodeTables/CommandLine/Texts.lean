import OpcodeTables.CommandLine.Parse
import OpcodeTables.FileSystem.Path
import OpcodeTables.Text.Alignment
import OpcodeTables.Text.ControlSequence

/-!
# Texts of the command line

The help, the version, and the message for every refusal.
-/

namespace OpcodeTables.CommandLine

def packageName : String := "opcode_tablegen"

def packageVersion : String := "0.3.0"

/-- The name of the program in its usage line, from the word by which it was
called. -/
def programName (called : Option String) : String :=
  (called.bind Path.fileName?).getD packageName

/-- How the program is called. -/
def usageLine (program arguments : String) : String :=
  "Usage: " ++ program ++ " " ++ arguments

/-- A line of the help: the option in its column, and what it is for. -/
def helpLine (option purpose : String) : String :=
  Text.alignLeft 35 option ++ purpose ++ "\n"

/-- What an option is for, with the value that it has by itself. -/
def optionPurpose : ValueOption → String
  | .sourceDirectory =>
    "Directory holding the instruction handler sources [default: src/jeebie/instr]"
  | .pattern =>
    "Glob, relative to the source directory, selecting the files to scan [default: *.rs]"
  | .dispatchPath =>
    "Where the dispatch tables are written [default: src/jeebie/instr/opcodes.rs]"
  | .disassemblyPath =>
    "Where the disassembly name tables are written [default: src/jeebie/disasm/metadata.rs]"
  | .moduleRoot => "Module path the handler modules are imported from [default: jeebie::instr]"
  | .cpuPath => "Path of the CPU type every handler takes [default: jeebie::core::cpu::CPU]"
  | .reportPath => "Also write a JSON report of every scanned opcode"
  | .logPath => ""

def flagPurpose : Flag → String
  | .denyDuplicates => "Fail instead of letting the last definition of an opcode win"
  | .check => "Only verify the generated files are up to date, write nothing"

def questionPurpose : Question → String
  | .help => "Print help"
  | .version => "Print version"

/-- The line of the help about an option or flag. -/
def helpOf : Known → String
  | .value option => helpLine ("      " ++ option.usage) (optionPurpose option)
  | .flag flag => helpLine ("      --" ++ flag.name) (flagPurpose flag)
  | .question question =>
    helpLine ("  -" ++ String.ofList [question.letter] ++ ", --" ++ question.name)
      (questionPurpose question)

/-- The answer to the question for help. -/
def helpText (program : String) : String :=
  "Generates opcode dispatch and disassembly tables from annotated instruction handlers.\n\n"
    ++ usageLine program "[OPTIONS]" ++ "\n\nOptions:\n" ++ String.join (Known.all.map helpOf)

/-- The answer to the question for the version. -/
def versionText : String := packageName ++ " " ++ packageVersion ++ "\n"

def answer (program : String) : Question → String
  | .help => helpText program
  | .version => versionText

namespace Refusal

/-- What is wrong with the words; a question has its answer in place of it.  A
word or value is quoted without what steers a terminal. -/
def message (medium : Text.Medium) (program : String) : Refusal → String
  | .unknownOption name _ =>
    "error: unexpected argument '--" ++ Text.shown medium name ++ "' found"
  | .unknownWord word => "error: unexpected argument '" ++ Text.shown medium word ++ "' found"
  | .missingValue option =>
    "error: a value is required for '" ++ option.usage ++ "' but none was supplied"
  | .repeated known =>
    "error: the argument '" ++ known.usage ++ "' cannot be used multiple times"
  | .unexpectedValue known value _ =>
    "error: unexpected value '" ++ Text.shown medium value ++ "' for '" ++ known.usage
      ++ "' found; no more were expected"
  | .question asked => answer (Text.shown medium program) asked

/-- One of all options and flags. -/
def anySetting : String :=
  "<" ++ String.intercalate "|" (Known.settings.map Known.usage) ++ ">"

/-- The words in the usage line below the message.  It shows what was given
before the fault, or all that could be if it is not known or a value was not
expected. -/
def usedWords? : Refusal → Option String
  | .missingValue _ | .question _ => none
  | .unknownWord _ | .repeated _ | .unknownOption _ [] => some "[OPTIONS]"
  | .unknownOption _ given => some (String.intercalate " " (given.map Known.usage))
  | .unexpectedValue known _ [] => some known.usage
  | .unexpectedValue (.question asked) _ _ =>
    some ((Known.question asked).usage ++ " " ++ anySetting)
  | .unexpectedValue _ _ _ => some anySetting

/-- All that is shown: the answer to a question, or else the message, the usage line and a
hint at the help. -/
def text (medium : Text.Medium) (program : String) (refusal : Refusal) : String :=
  match refusal with
  | .question asked => answer (Text.shown medium program) asked
  | _ =>
    refusal.message medium program ++ "\n\n"
      ++ (match refusal.usedWords? with
        | none => ""
        | some words => usageLine (Text.shown medium program) words ++ "\n\n")
      ++ "For more information, try '--help'.\n"

end Refusal

end OpcodeTables.CommandLine
