/-!
# Import lists

The modules from which the generated dispatch source imports its handlers, in
the order in which their files were found.
-/

namespace OpcodeTables

/-- The modules that the dispatch source imports, in the order of their registration. -/
structure ImportList where
  modules : List String
  deriving DecidableEq, Repr

namespace ImportList

/-- The names of generated files and of files that only gather others. -/
def reservedModules : List String := ["mod", "opcodes", "timings"]

def isReserved (module : String) : Bool := reservedModules.contains module

def empty : ImportList := ⟨[]⟩

def contains (imports : ImportList) (module : String) : Bool :=
  imports.modules.contains module

/-- Whether `register` adds the module. -/
def admits (imports : ImportList) (module : String) : Bool :=
  !isReserved module && !imports.contains module

/-- Appends a module that is neither reserved nor already listed. -/
def register (imports : ImportList) (module : String) : ImportList :=
  if imports.admits module then ⟨imports.modules ++ [module]⟩ else imports

def size (imports : ImportList) : Nat := imports.modules.length

end ImportList

end OpcodeTables
