import OpcodeTables.Catalogue
import OpcodeTables.Generated.TableLayout
import OpcodeTables.Text.Alignment

/-!
# The dispatch source

The generated source imports the handlers of every module, declares the type of
handlers and the two fallback handlers, and ends in a table of handlers for each
space.
-/

namespace OpcodeTables

/-- The paths that are spliced into the dispatch source. -/
structure ImportPaths where
  /-- What the handler modules are imported from. -/
  moduleRoot : String := "jeebie::instr"
  /-- The type of the processor state that every handler takes. -/
  cpuPath : String := "jeebie::core::cpu::CPU"
  deriving DecidableEq, Repr

/-- The characters in front of the first two adjacent colons. -/
def ImportPaths.beforeColons : List Char → List Char
  | ':' :: ':' :: _ => []
  | c :: rest => c :: beforeColons rest
  | [] => []

/-- The name of the processor type: what stands behind the last two adjacent
colons of its path. -/
def ImportPaths.cpuType (paths : ImportPaths) : String :=
  String.ofList (beforeColons paths.cpuPath.toList.reverse).reverse

namespace DispatchSource

/-- The line that imports the handlers of one module. -/
def importLine (paths : ImportPaths) (module : String) : String :=
  "use " ++ paths.moduleRoot ++ "::" ++ module ++ "::*;\n"

/-- The handler for opcodes without an instruction. -/
def fallbackFunction (cpuType : String) (space : Space) : String :=
  let opcodeDigits := match space with
    | .primary => ""
    | .extended => extendedMarker
  "fn " ++ space.fallbackHandler ++ "(cpu: &mut " ++ cpuType ++ ") -> i32 \x7b\n"
    ++ "    panic!(\"Opcode 0x" ++ opcodeDigits
    ++ "\x7b:02X\x7d is not implemented!\", cpu.mem.read_b(cpu.reg.pc - 1))\n\x7d\n"

/-- What stands between the imports and the tables: the handlers' type and the
fallbacks. -/
def preamble (paths : ImportPaths) : String :=
  "\nuse " ++ paths.cpuPath ++ ";\n"
    ++ "/// The type of functions that implement an opcode.\n"
    ++ "pub type OpcodeFunc = fn(&mut " ++ paths.cpuType ++ ") -> i32;\n\n"
    ++ fallbackFunction paths.cpuType .primary
    ++ fallbackFunction paths.cpuType .extended

/-- The table of one space.  Handlers stand at the right end of a column of 13
characters. -/
def table (catalogue : Catalogue) (space : Space) : List String :=
  TableLayout.fragments (space.tablePrefix ++ "OPCODE_TABLE") "OpcodeFunc"
    fun opcode => Text.alignRight 13 ((catalogue.opcodes space).handlerAt opcode)

def fragments (catalogue : Catalogue) (paths : ImportPaths) : List String :=
  TableLayout.disclaimer
    :: catalogue.imports.modules.map (importLine paths)
    ++ [preamble paths]
    ++ Space.all.flatMap (table catalogue)
    ++ ["\n"]

/-- The whole text: imports, preamble and both tables. -/
def render (catalogue : Catalogue) (paths : ImportPaths) : String :=
  String.join (fragments catalogue paths)

end DispatchSource

end OpcodeTables
