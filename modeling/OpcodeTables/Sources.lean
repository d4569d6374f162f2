import OpcodeTables.Catalogue
import OpcodeTables.Failure
import OpcodeTables.World

/-!
# Handler sources

Finding the sources in a directory, and reading them into a catalogue.
-/

namespace OpcodeTables.Sources

/-- The matches in front of the first directory that could not be listed, or
that directory. -/
def matchesOf : List Glob.Found → Except Failure (List String)
  | [] => .ok []
  | .ok path :: rest => (matchesOf rest).map (path :: ·)
  | .error error :: _ => .error (.walk error)

/-- The paths that match `pattern` in a directory and lead to no directory.  The
name of the directory is taken literally; a link that leads nowhere is kept. -/
def discover (files : FileSystem) (directory pattern : String) :
    Except Failure (List String) := do
  let found ← (Glob.walk files (Path.join (Glob.escape directory) pattern)).mapError .pattern
  let paths ← matchesOf found
  return paths.filter fun path => !files.isDirectory path

/-- Adds what was found in one source.  Its module is imported even if nothing
was found. -/
def addSource (catalogue : Catalogue) (path : String) (found : List Annotated) : Catalogue :=
  let catalogue := catalogue.addAll path found
  match Path.stem? path with
  | none => catalogue
  | some module => catalogue.registerModule module

def scannedEvent (path : String) (found : List Annotated) : Event where
  level := .debug
  area := .sources
  message := "Scanned '" ++ path ++ "': " ++ Nat.repr found.length ++ " annotation(s)"

/-- What `addSource` reports. -/
def sourceEvents (catalogue : Catalogue) (path : String) (found : List Annotated) : List Event :=
  catalogue.addAllEvents path found ++ scannedEvent path found
    :: match Path.stem? path with
      | none => []
      | some module => catalogue.registerEvents module

/-- Reads sources in their order into a catalogue.  A source that cannot be read
ends the scan; bytes that are no text are replaced. -/
def addPaths (world : World) (catalogue : Catalogue) :
    List String → Except Failure Catalogue × World
  | [] => (.ok catalogue, world)
  | path :: rest =>
    match world.files.read path with
    | .error error => (.error (.file path error), world)
    | .ok bytes =>
      let found := Annotated.scan (Utf8.decode bytes)
      addPaths (world.reportAll (sourceEvents catalogue path found))
        (addSource catalogue path found) rest

/-- Reads sources into an empty catalogue. -/
def scanPaths (world : World) (paths : List String) : Except Failure Catalogue × World :=
  addPaths world .empty paths

def foundEvent (directory pattern : String) (count : Nat) : Event where
  level := .info
  area := .sources
  message := "Scanning " ++ Nat.repr count ++ " file(s) in '" ++ directory ++ "' matching '"
    ++ pattern ++ "'"

/-- Finds the sources in a directory and reads them. -/
def scanDirectory (world : World) (directory pattern : String) :
    Except Failure Catalogue × World :=
  match discover world.files directory pattern with
  | .error failure => (.error failure, world)
  | .ok paths =>
    scanPaths (world.report (foundEvent directory pattern paths.length)) paths

end OpcodeTables.Sources
