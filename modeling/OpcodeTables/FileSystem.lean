import OpcodeTables.FileSystem.Path
import OpcodeTables.FileSystem.SystemError

/-!
# File systems

A file system maps locations to files, directories and links.  A location is the
list of names that leads to it from the root; the root itself is always a
directory.  `node?` is the view of a file system.

Paths are resolved name by name, as the system calls of a Unix system do it:
links are followed, `..` leads to the directory above the one reached, and every
reason for refusal is met in the order of the names.
-/

namespace OpcodeTables

abbrev Location := List String

/-- What can stand at a location. -/
inductive Node where
  | file (bytes : List UInt8)
  | directory
  | link (target : String)
  deriving DecidableEq, Repr

/-- All that a run of the program can see and change of the files around it. -/
structure FileSystem where
  /-- All that exists below the root, in the order of creation. -/
  entries : List (Location × Node) := []
  /-- The directory from which relative paths start. -/
  workDirectory : Location := []
  /-- Whether no file or directory can be opened for want of handles. -/
  exhausted : Bool := false
  deriving DecidableEq

namespace FileSystem

/-- Whether two locations are the same.  Their lengths tell most of them apart at
once. -/
def isSame (first second : Location) : Bool :=
  first.length == second.length && first == second

@[simp] theorem isSame_iff (first second : Location) :
    isSame first second = true ↔ first = second := by
  simp only [isSame, Bool.and_eq_true, beq_iff_eq]
  exact ⟨And.right, fun same => ⟨congrArg List.length same, same⟩⟩

def find? (location : Location) : List (Location × Node) → Option Node
  | [] => none
  | entry :: rest => if isSame entry.1 location then some entry.2 else find? location rest

/-- Puts a node in place of the one at its location, or behind all others. -/
def place (location : Location) (node : Node) : List (Location × Node) → List (Location × Node)
  | [] => [(location, node)]
  | entry :: rest =>
    if isSame entry.1 location then (location, node) :: rest
    else entry :: place location node rest

def node? (files : FileSystem) (location : Location) : Option Node :=
  if location = [] then some .directory else find? location files.entries

def put (files : FileSystem) (location : Location) (node : Node) : FileSystem :=
  { files with entries := place location node files.entries }

theorem find?_place (location other : Location) (node : Node)
    (entries : List (Location × Node)) :
    find? other (place location node entries) =
      if location = other then some node else find? other entries := by
  induction entries with
  | nil => simp [place, find?]
  | cons entry rest ih =>
    simp only [place, isSame_iff]
    split
    case isTrue hsame => simp only [find?, isSame_iff, hsame]; split <;> rfl
    case isFalse hother =>
      simp only [find?, isSame_iff, ih]
      by_cases hentry : entry.1 = other
      · simp [hentry, show ¬ location = other from fun h => hother (hentry.trans h.symm)]
      · simp [hentry]

/-- To put a node somewhere changes what is found there and nothing else. -/
theorem node?_put (files : FileSystem) {location : Location} (h : location ≠ [])
    (other : Location) (node : Node) :
    (files.put location node).node? other =
      if location = other then some node else files.node? other := by
  unfold node?
  by_cases hroot : other = []
  · simp [hroot, h]
  · simp [hroot, put, find?_place]

/-- What lies below the entries with a name, by the ways from these entries. -/
def enter (name : String) (entries : List (Location × Node)) : List (Location × Node) :=
  entries.filterMap fun entry =>
    match entry.1 with
    | [] => none
    | first :: rest => if first = name then some (rest, entry.2) else none

/-- What lies at a location and below it, by the ways from there. -/
def inside (location : Location) (entries : List (Location × Node)) : List (Location × Node) :=
  location.foldl (fun entries name => enter name entries) entries

/-- A search below a name is a search by the ways that begin with it. -/
theorem find?_enter (name : String) (rest : Location) (entries : List (Location × Node)) :
    find? rest (enter name entries) = find? (name :: rest) entries := by
  induction entries with
  | nil => rfl
  | cons entry others ih =>
    obtain ⟨location, node⟩ := entry
    cases location with
    | nil => simp [enter, find?, ← ih]
    | cons first behind =>
      by_cases same : first = name
      · simp [enter, find?, same, ← ih]
      · simp [enter, find?, same, ← ih]

theorem find?_inside (location : Location) (entries : List (Location × Node)) :
    find? [] (inside location entries) = find? location entries := by
  induction location generalizing entries with
  | nil => rfl
  | cons name rest ih =>
    rw [← find?_enter, ← ih]
    rfl

/-- The entries of a directory with their names, in the byte order of the
names. -/
def entriesIn (files : FileSystem) (directory : Location) : List (String × Node) :=
  let found := files.entries.filterMap fun entry =>
    match entry.1.getLast? with
    | none => none
    | some name =>
      if entry.1.length == directory.length + 1 && entry.1.dropLast == directory then
        some (name, entry.2)
      else none
  found.mergeSort fun entry other => decide (entry.1 ≤ other.1)

/-! ## Resolving paths -/

/-- Where the names of a path lead. -/
inductive Ending where
  /-- A directory that the path does not name by an entry of another directory:
  the root, the place it starts from, or one reached by a dot name. -/
  | directory (location : Location)
  /-- An entry, which may not exist, of an existing directory, and whether a slash
  follows its name. -/
  | entry (location : Location) (slash : Bool)
  deriving DecidableEq

/-- The number of links that may be followed on one path. -/
def linkLimit : Nat := 40

/-- The names in a path, with the dot names. -/
def namesOf (path : String) : List String := (Path.pieces path).filter (· != "")

/-- Where a path starts: at the root, or in the working directory. -/
def startOf (path : String) (relative : Location) : Location :=
  if Path.isAbsolute path then [] else relative

/-- How a walk goes on: from a directory, with the names that remain, given
whether a slash follows the last of them. -/
abbrev Walk := Location → List String → Bool → Except SystemError Ending

/-- Follows names from a directory, below which lie the entries `below`, up to the
first link; `behindLink` takes over there.  A link at the end is followed if
`followEnd` says so, given whether a slash follows it. -/
def walkToLink (files : FileSystem) (followEnd : Bool → Bool) (behindLink : Walk)
    (here : Location) (below : List (Location × Node)) (names : List String) (slash : Bool) :
    Except SystemError Ending :=
  match names with
  | [] => .ok (.directory here)
  | name :: rest =>
    if name = "." then files.walkToLink followEnd behindLink here below rest slash
    else if name = ".." then
      files.walkToLink followEnd behindLink here.dropLast (inside here.dropLast files.entries)
        rest slash
    else
      let location := here ++ [name]
      let found := enter name below
      if rest = [] ∧ slash ∧ ¬ followEnd slash then .ok (.entry location slash)
      else if name.utf8ByteSize > 255 then .error .nameTooLong
      else
        match find? [] found with
        | none => if rest = [] then .ok (.entry location slash) else .error .notFound
        | some .directory =>
          if rest = [] then .ok (.entry location slash)
          else files.walkToLink followEnd behindLink location found rest slash
        | some (.file _) =>
          if rest = [] then .ok (.entry location slash) else .error .notADirectory
        | some (.link target) =>
          if rest = [] ∧ ¬ followEnd slash then .ok (.entry location slash)
          else if target = "" then .error .notFound
          else
            behindLink (startOf target here) (namesOf target ++ rest)
              (slash || (rest == [] && Path.endsInSlash target))

/-- Follows names from a directory and through at most `links` links. -/
def walk (files : FileSystem) (followEnd : Bool → Bool) : (links : Nat) → Walk
  | 0, here =>
    files.walkToLink followEnd (fun _ _ _ => .error .tooManyLinks) here (inside here files.entries)
  | links + 1, here =>
    files.walkToLink followEnd (files.walk followEnd links) here (inside here files.entries)

/-- The faults of a path that do not depend on what exists. -/
def checkPath (path : String) : Except FileError Unit :=
  if path.toList.contains '\x00' then .error .nulInPath
  else if path = "" then .error (.system .notFound)
  else if path.utf8ByteSize ≥ 4096 then .error (.system .nameTooLong)
  else .ok ()

/-- Where a path ends, given whether a link at its end is followed. -/
def resolve (files : FileSystem) (followEnd : Bool → Bool) (path : String) :
    Except FileError Ending :=
  (files.walk followEnd linkLimit (startOf path files.workDirectory) (namesOf path)
    (Path.endsInSlash path)).mapError .system

/-! ## Looking at what exists -/

/-- What stands where a path ends.  Behind a slash there has to be a directory. -/
def nodeAtEnd (files : FileSystem) : Ending → Except FileError (Location × Node)
  | .directory location => .ok (location, .directory)
  | .entry location slash =>
    match files.node? location with
    | none => .error (.system .notFound)
    | some (.file bytes) =>
      if slash then .error (.system .notADirectory) else .ok (location, .file bytes)
    | some node => .ok (location, node)

/-- What a path leads to when every link is followed. -/
def status (files : FileSystem) (path : String) : Except FileError (Location × Node) := do
  checkPath path
  files.nodeAtEnd (← files.resolve (fun _ => true) path)

/-- What a path names: a link at its end is not followed. -/
def linkStatus (files : FileSystem) (path : String) : Except FileError (Location × Node) := do
  checkPath path
  files.nodeAtEnd (← files.resolve id path)

/-- Whether a path leads to a directory. -/
def isDirectory (files : FileSystem) (path : String) : Bool :=
  match files.status path with
  | .ok (_, .directory) => true
  | _ => false

/-- Whether a path leads to something or at least names a link. -/
def hasEntry (files : FileSystem) (path : String) : Bool :=
  (files.status path).isOk || (files.linkStatus path).isOk

/-- A file or directory can be opened only while handles are left. -/
def checkHandles (files : FileSystem) : Except FileError Unit :=
  if files.exhausted then .error (.system .tooManyOpenFiles) else .ok ()

/-- The contents of the file that a path leads to. -/
def read (files : FileSystem) (path : String) : Except FileError (List UInt8) := do
  checkPath path
  files.checkHandles
  match ← files.nodeAtEnd (← files.resolve (fun _ => true) path) with
  | (_, .file bytes) => .ok bytes
  | _ => .error (.system .isADirectory)

/-- The entries of a directory with their names, in byte order. -/
def list (files : FileSystem) (path : String) : Except FileError (List (String × Node)) := do
  checkPath path
  files.checkHandles
  match ← files.nodeAtEnd (← files.resolve (fun _ => true) path) with
  | (location, .directory) => .ok (files.entriesIn location)
  | _ => .error (.system .notADirectory)

/-! ## Changing what exists -/

/-- The location of the file that writing to a path creates or overwrites. -/
def writeTarget (files : FileSystem) (path : String) : Except FileError Location := do
  checkPath path
  files.checkHandles
  match ← files.resolve (fun slash => !slash) path with
  | .directory _ => .error (.system .isADirectory)
  | .entry location slash =>
    if slash ∨ files.node? location = some .directory then .error (.system .isADirectory)
    else .ok location

/-- Creates the file that a path leads to, or replaces its contents. -/
def write (files : FileSystem) (path : String) (bytes : List UInt8) :
    Except FileError FileSystem := do
  return files.put (← files.writeTarget path) (.file bytes)

/-- The location of the entry that is created at a path where nothing exists. -/
def newEntry (files : FileSystem) (path : String) : Except FileError Location := do
  checkPath path
  match ← files.resolve (fun _ => false) path with
  | .directory _ => .error (.system .fileExists)
  | .entry location _ =>
    if (files.node? location).isSome then .error (.system .fileExists) else .ok location

/-- Makes a directory at a path where nothing exists. -/
def makeDirectory (files : FileSystem) (path : String) : Except FileError FileSystem := do
  return files.put (← files.newEntry path) .directory

/-- Makes a link at a path where nothing exists; where it leads is not looked at. -/
def makeLink (files : FileSystem) (path target : String) : Except FileError FileSystem := do
  if target.toList.contains '\x00' then throw .nulInPath
  if target = "" then throw (.system .notFound)
  return files.put (← files.newEntry path) (.link target)

/-- Makes a directory, given its path and the paths above it, nearest first.
Where the directory above is missing it is made first; a directory that exists
already is fine.  What was made before a failure stays. -/
def makeDirectoriesAlong (files : FileSystem) : List String → Except FileError Unit × FileSystem
  | [] => (.ok (), files)
  | path :: above =>
    if path = "" then (.ok (), files)
    else
      match files.makeDirectory path with
      | .ok made => (.ok (), made)
      | .error (.system .notFound) =>
        match files.makeDirectoriesAlong above with
        | (.error error, partly) => (.error error, partly)
        | (.ok (), files) =>
          match files.makeDirectory path with
          | .ok made => (.ok (), made)
          | .error error =>
            if files.isDirectory path then (.ok (), files) else (.error error, files)
      | .error error => if files.isDirectory path then (.ok (), files) else (.error error, files)

/-- Makes a directory and all that are missing above it. -/
def makeDirectories (files : FileSystem) (path : String) : Except FileError Unit × FileSystem :=
  files.makeDirectoriesAlong (Path.ancestors path)

/-- Removes an entry and all below it; a link is removed and not followed. -/
def remove (files : FileSystem) (path : String) : Except FileError FileSystem := do
  let (location, _) ← files.linkStatus path
  return { files with entries := files.entries.filter fun entry => !location.isPrefixOf entry.1 }

/-! ## Files held open -/

/-- Overwrites bytes from an offset on; a gap behind the old end is filled with
zeros. -/
def overwrite (old : List UInt8) (offset : Nat) (bytes : List UInt8) : List UInt8 :=
  old.take offset ++ List.replicate (offset - old.length) 0 ++ bytes
    ++ old.drop (offset + bytes.length)

/-- Writes into a file from an offset on. -/
def writeAt (files : FileSystem) (location : Location) (offset : Nat) (bytes : List UInt8) :
    FileSystem :=
  match files.node? location with
  | some (.file old) => files.put location (.file (overwrite old offset bytes))
  | _ => files

end FileSystem

end OpcodeTables
