import OpcodeTables.Generated.DisassemblySource
import OpcodeTables.Generated.DispatchSource
import OpcodeTables.Generated.Report
import OpcodeTables.GeneratedFile
import OpcodeTables.Options
import OpcodeTables.Sources

/-!
# A run

A run scans the sources and writes the generated files, or checks that they are
current.  Nothing is written before every source was read.
-/

namespace OpcodeTables.Generation

def foundEvent (catalogue : Catalogue) : Event where
  level := .info
  area := .generation
  message := "Found " ++ Nat.repr catalogue.primary.size ++ " primary and "
    ++ Nat.repr catalogue.extended.size ++ " extended opcode(s) across "
    ++ Nat.repr catalogue.imports.size ++ " module(s)"

def duplicatesEvent (count : Nat) : Event where
  level := .warn
  area := .generation
  message := Nat.repr count ++ " opcode(s) defined more than once, last definition kept"

/-- The two generated sources, in the order in which they are written. -/
def sources (options : Options) (catalogue : Catalogue) : List GeneratedFile :=
  [⟨options.dispatchPath, DispatchSource.render catalogue options.importPaths⟩,
    ⟨options.disassemblyPath, DisassemblySource.render catalogue⟩]

/-- The report, if the options ask for one. -/
def report? (options : Options) (catalogue : Catalogue) : Option GeneratedFile :=
  options.reportPath.map fun path => ⟨path, Report.render catalogue⟩

/-- Compares the generated sources with the files, or writes them and the report. -/
def deliver (options : Options) (catalogue : Catalogue) (world : World) :
    Except Failure Unit × World :=
  if options.check then GeneratedFile.checkAll (sources options catalogue) world
  else
    GeneratedFile.writeAll (sources options catalogue ++ (report? options catalogue).toList) world

/-- What is done with a catalogue once every source is read. -/
def finish (options : Options) (catalogue : Catalogue) (world : World) :
    Except Failure Catalogue × World :=
  let world := world.report (foundEvent catalogue)
  if catalogue.conflicts ≠ [] ∧ options.denyDuplicates then
    (.error (.duplicates catalogue.conflicts), world)
  else
    let world :=
      if catalogue.conflicts = [] then world
      else world.report (duplicatesEvent catalogue.conflicts.length)
    match deliver options catalogue world with
    | (.error failure, world) => (.error failure, world)
    | (.ok (), world) => (.ok catalogue, world)

/-- A whole run: find and read the sources, then deliver what follows from them. -/
def run (options : Options) (world : World) : Except Failure Catalogue × World :=
  match Sources.scanDirectory world options.sourceDirectory options.pattern with
  | (.error failure, world) => (.error failure, world)
  | (.ok catalogue, world) => finish options catalogue world

end OpcodeTables.Generation
