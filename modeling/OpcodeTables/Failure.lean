import OpcodeTables.Catalogue.Conflict
import OpcodeTables.Glob.Walk
import OpcodeTables.Text.Json.Fault

/-!
# Failures

The causes for which a run fails, each with its text.
-/

namespace OpcodeTables

/-- Why a run ends without its result. -/
inductive Failure where
  /-- A file could not be read, or a file or directory not be written. -/
  | file (path : String) (error : FileError)
  | pattern (error : Glob.PatternError)
  | walk (error : Glob.WalkError)
  | duplicates (conflicts : List Conflict)
  /-- Generated files that are missing or differ from what would be written. -/
  | stale (paths : List String)
  | report (fault : Json.Fault)
  deriving DecidableEq, Repr

namespace Failure

/-- A line of its own below a message. -/
def listed (item : String) : String := "\n  " ++ item

/-- The failure as the user reads it. -/
def message : Failure → String
  | .file path error => "I/O error on '" ++ path ++ "': " ++ error.text
  | .pattern error => "Invalid source pattern: " ++ error.text
  | .walk error => "Failed to walk sources: " ++ error.text
  | .duplicates conflicts =>
    Nat.repr conflicts.length ++ " duplicate opcode definition(s)"
      ++ String.join (conflicts.map fun conflict => listed conflict.text)
  | .stale paths => "Generated files are out of date:" ++ String.join (paths.map listed)
  | .report fault => "Failed to serialize report: " ++ fault.text

/-- The text of the error behind a failure. -/
def cause? : Failure → Option String
  | .file _ error => some error.text
  | .pattern error => some error.text
  | .walk error => some error.text
  | .duplicates _ => none
  | .stale _ => none
  | .report fault => some fault.text

end Failure

end OpcodeTables
