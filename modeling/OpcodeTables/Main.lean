import OpcodeTables.Program

/-!
# The command

The program on a real file system.  What lies below the working directory, and
the directories on the way to the paths named by the options, are looked up
first; then the program is computed, and the entries that it made or changed are
written.
-/

namespace OpcodeTables.Command

def pathOf (location : Location) : String := "/" ++ String.intercalate "/" location

def locationOf (path : String) : Location := FileSystem.namesOf path

/-- A name that no entry has: where links lead that lead to nothing. -/
def nowhere : String := "\x00"

/-- The kind of the entry at a path, with empty contents for a file. -/
def nodeAt (path : String) : IO (Option Node) := do
  let here ← IO.currentDir
  match ← (here / path).symlinkMetadata.toBaseIO with
  | .error _ => return none
  | .ok found =>
    match found.type with
    | .dir => return some .directory
    | .symlink =>
      match ← (IO.FS.realPath path).toBaseIO with
      | .ok target =>
        let leads ← target.pathExists
        return some (.link (if leads then target.toString else nowhere))
      | .error _ => return some (.link nowhere)
    | _ => return some (.file [])

/-- Adds the entries on the way to a location, and those on the way to where
links among them lead. -/
partial def addWay (files : FileSystem) (way rest : Location) : IO FileSystem := do
  match rest with
  | [] => return files
  | "." :: rest => addWay files way rest
  | ".." :: rest => addWay files way.dropLast rest
  | name :: rest =>
    let location := way ++ [name]
    let known := files.node? location
    let found ← if known.isSome then pure known else nodeAt (pathOf location)
    match found with
    | none => return files
    | some node =>
      let files := if known.isSome then files else files.put location node
      match node with
      | .link target =>
        if target == nowhere then return files
        else addWay files [] (locationOf target ++ rest)
      | _ => addWay files location rest

/-- Adds all that lies in a directory. -/
partial def addTree (files : FileSystem) (directory : Location) : IO FileSystem := do
  let here ← IO.currentDir
  match ← (here / pathOf directory).readDir.toBaseIO with
  | .error _ => return files
  | .ok found =>
    let mut files := files
    for entry in found do
      let location := directory ++ [entry.fileName]
      let known := (files.node? location).isSome
      files ← addWay files directory [entry.fileName]
      if !known && files.node? location == some .directory then
        files ← addTree files location
    return files

/-- Reads the contents of the file that a path leads to. -/
def fill (files : FileSystem) (path : String) : IO FileSystem := do
  match files.status path with
  | .ok (location, .file _) =>
    match ← (IO.FS.readBinFile (pathOf location)).toBaseIO with
    | .ok bytes => return files.put location (.file bytes.toList)
    | .error _ => return files
  | _ => return files

/-- The paths that a run with these options names. -/
def namedPaths (options : Options) : List String :=
  [options.sourceDirectory, options.dispatchPath, options.disassemblyPath]
    ++ options.reportPath.toList ++ options.logPath.toList

/-- The files that a run with these options compares or reads. -/
def readPaths (options : Options) (files : FileSystem) : List String :=
  let sources := match Sources.discover files options.sourceDirectory options.pattern with
    | .ok paths => paths
    | .error _ => []
  sources ++ [options.dispatchPath, options.disassemblyPath]

/-- The file system as far as a run with these options sees it. -/
def survey (options : Options) : IO FileSystem := do
  let here := locationOf (← IO.currentDir).toString
  let mut files : FileSystem := { workDirectory := here }
  files ← addWay files [] here
  files ← addTree files here
  for path in namedPaths options do
    files ← addWay files [] (FileSystem.startOf path here ++ locationOf path)
  if let .ok (location, .directory) := files.status options.sourceDirectory then
    files ← addTree files location
  (readPaths options files).foldlM fill files

/-- Writes the entries that differ from those found before. -/
def apply (before after : FileSystem) : IO Unit := do
  for (location, node) in after.entries do
    if before.node? location != some node then
      match node with
      | .directory => IO.FS.createDir (pathOf location)
      | .file bytes => IO.FS.writeBinFile (pathOf location) ⟨bytes.toArray⟩
      | .link _ => pure ()

end OpcodeTables.Command

open OpcodeTables OpcodeTables.Command in
def main (words : List String) : IO UInt32 := do
  let called := (← IO.appPath).toString
  let filterText ← IO.getEnv "RUST_LOG"
  let files ← match CommandLine.parse words with
    | .ok options => survey options
    | .error _ => pure {}
  let outcome := Program.call (some called) words filterText files
  apply files outcome.files
  (← IO.getStderr).putStr outcome.standardError
  (← IO.getStdout).putStr outcome.standardOutput
  return UInt32.ofNat outcome.exitCode
