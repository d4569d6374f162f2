import OpcodeTables.Failure
import OpcodeTables.World

/-!
# Generated files

A generated file is a path with the contents that belong there.  Files are
written in their order, and the first failure ends the writing; a check only
compares.
-/

namespace OpcodeTables

/-- A text and the path that it is to be written to. -/
structure GeneratedFile where
  path : String
  contents : String
  deriving DecidableEq, Repr

namespace GeneratedFile

def bytes (file : GeneratedFile) : List UInt8 := Utf8.encode file.contents

/-- The directory that is to hold a file, unless it is the working directory. -/
def directory? (path : String) : Option String :=
  (Path.parent? path).filter (· != "")

/-- Makes the directory that is to hold a file, and those above it. -/
def makeRoom (files : FileSystem) (path : String) : Except Failure Unit × FileSystem :=
  match directory? path with
  | none => (.ok (), files)
  | some directory =>
    match files.makeDirectories directory with
    | (.error error, files) => (.error (.file directory error), files)
    | (.ok (), files) => (.ok (), files)

def writtenEvent (file : GeneratedFile) : Event where
  level := .info
  area := .output
  message := "Wrote '" ++ file.path ++ "' (" ++ Nat.repr file.bytes.length ++ " bytes)"

/-- Overwrites the file at the path, and makes directories as needed. -/
def write (file : GeneratedFile) (world : World) : Except Failure Unit × World :=
  match makeRoom world.files file.path with
  | (.error failure, files) => (.error failure, { world with files })
  | (.ok (), files) =>
    match files.write file.path file.bytes with
    | .error error => (.error (.file file.path error), { world with files })
    | .ok files => (.ok (), { world with files }.report file.writtenEvent)

/-- Writes files one after the other, up to the first that cannot be written. -/
def writeAll : List GeneratedFile → World → Except Failure Unit × World
  | [], world => (.ok (), world)
  | file :: rest, world =>
    match file.write world with
    | (.error failure, world) => (.error failure, world)
    | (.ok (), world) => writeAll rest world

/-- Whether the file at the path has exactly the contents. -/
def isCurrent (files : FileSystem) (file : GeneratedFile) : Bool :=
  match files.read file.path with
  | .ok bytes => bytes == file.bytes
  | .error _ => false

def currentEvent (count : Nat) : Event where
  level := .info
  area := .output
  message := Nat.repr count ++ " generated file(s) up to date"

/-- Fails with the paths of all files that are not current. -/
def checkAll (generated : List GeneratedFile) (world : World) : Except Failure Unit × World :=
  match generated.filter fun file => !isCurrent world.files file with
  | [] => (.ok (), world.report (currentEvent generated.length))
  | stale => (.error (.stale (stale.map path)), world)

end GeneratedFile

end OpcodeTables
