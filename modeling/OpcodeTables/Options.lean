import OpcodeTables.Generated.DispatchSource

/-!
# Options

What a run is asked to do.
-/

namespace OpcodeTables

/-- What the user can choose, with what holds where nothing is chosen. -/
structure Options where
  /-- The directory that holds the handler sources. -/
  sourceDirectory : String := "src/jeebie/instr"
  /-- Selects the sources in the directory. -/
  pattern : String := "*.rs"
  /-- Where the dispatch source is written. -/
  dispatchPath : String := "src/jeebie/instr/opcodes.rs"
  /-- Where the disassembly source is written. -/
  disassemblyPath : String := "src/jeebie/disasm/metadata.rs"
  importPaths : ImportPaths := {}
  /-- Where a report is written, if one is asked for. -/
  reportPath : Option String := none
  /-- Fail where an opcode has several definitions. -/
  denyDuplicates : Bool := false
  /-- Write nothing, and fail where a generated file is not current. -/
  check : Bool := false
  /-- The file that takes the log in place of the error output. -/
  logPath : Option String := none
  deriving DecidableEq, Repr

end OpcodeTables
