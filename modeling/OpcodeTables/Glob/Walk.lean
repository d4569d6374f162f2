import OpcodeTables.FileSystem
import OpcodeTables.Glob.Pattern

/-!
# Finding paths by a pattern

A pattern is matched component by component.  A component without wildcards is
only tested for existence; any other component lists the directory reached so
far.  Matches come in the order of a walk through the tree that visits the names
of a directory in byte order and what lies in a directory at the place of the
directory.
-/

namespace OpcodeTables.Glob

/-- A directory that could not be listed. -/
structure WalkError where
  path : String
  error : FileError
  deriving DecidableEq, Repr

def WalkError.text (error : WalkError) : String :=
  "attempting to read `" ++ error.path ++ "` resulted in an error: " ++ error.error.text

/-- What a walk meets: a match, or a directory that could not be listed. -/
abbrev Found := Except WalkError String

/-- A path that a walk has come to. -/
structure Reached where
  path : String
  isDirectory : Bool
  deriving DecidableEq, Repr

/-- Whether a component is `**`, which stands for any number of directories. -/
def isRecursive (component : Pattern) : Bool := component == [.anyDirectories]

/-- Whether a component begins with a dot that is no wildcard. -/
def beginsWithDot (component : Pattern) : Bool := component.head? == some (.char '.')

/-- The path of a name in a directory.  Names in the working directory stand for
themselves. -/
def below (directory name : String) : String :=
  if Path.isHere directory then name else Path.join directory name

def reach (files : FileSystem) (path : String) : Reached := ⟨path, files.isDirectory path⟩

/-- An entry of a listed directory.  The listing itself tells directories from
files; only a link has to be followed. -/
def reachEntry (files : FileSystem) (directory : String) (entry : String × Node) : Reached :=
  let path := below directory entry.1
  match entry.2 with
  | .directory => ⟨path, true⟩
  | .file _ => ⟨path, false⟩
  | .link _ => reach files path

/-- How a walk goes on from a path with the components that remain. -/
abbrev Continuation := Reached → List Pattern → List Found

/-- What is done with a path that matches all components so far: the walk goes
on from it, or it is a match. -/
def settle (directoriesOnly : Bool) (continuation : Continuation) (reached : Reached)
    (rest : List Pattern) : List Found :=
  match rest with
  | [] => if directoriesOnly && !reached.isDirectory then [] else [.ok reached.path]
  | _ :: _ => continuation reached rest

/-- Matches a path whose last name is not yet tested with its component. -/
def testName (directoriesOnly : Bool) (continuation : Continuation) (reached : Reached) :
    List Pattern → List Found
  | [] => []
  | component :: rest =>
    match Path.fileName? reached.path with
    | none => []
    | some name =>
      if component.accepts name.toList then settle directoriesOnly continuation reached rest
      else []

/-- Visits an entry of a listed directory.  Under a recursive component an entry
may match the components behind it; a directory is also entered with the
recursive component kept, and matches by itself if none follows. -/
def visit (directoriesOnly : Bool) (continuation : Continuation) (reached : Reached) :
    List Pattern → List Found
  | [] => []
  | component :: rest =>
    if isRecursive component then
      let behind := rest.dropWhile isRecursive
      let tested := testName directoriesOnly continuation reached behind
      if reached.isDirectory then
        (if behind = [] then [.ok reached.path] else tested)
          ++ continuation reached (component :: behind)
      else tested
    else testName directoriesOnly continuation reached (component :: rest)

/-- Continues a walk with the remaining components, through at most `steps`
further components or directories. -/
def continueFrom (files : FileSystem) (directoriesOnly : Bool) : Nat → Continuation
  | 0, _, _ => []
  | _, _, [] => []
  | steps + 1, reached, component :: rest =>
    let continuation := continueFrom files directoriesOnly steps
    match component.literal? with
    | some chars =>
      let name := String.ofList chars
      let next := below reached.path name
      let isThere :=
        if name = "." ∨ name = ".." then reached.isDirectory else files.hasEntry next
      if isThere then settle directoriesOnly continuation (reach files next) rest else []
    | none =>
      if reached.isDirectory then
        match files.list reached.path with
        | .error error => [.error ⟨reached.path, error⟩]
        | .ok entries =>
          let dotNames := ["..", "."].filter fun name =>
            beginsWithDot component && component.accepts name.toList
          (dotNames.flatMap fun name =>
              settle directoriesOnly continuation (reach files (Path.join reached.path name)) rest)
            ++ entries.flatMap fun entry =>
              visit directoriesOnly continuation (reachEntry files reached.path entry)
                (component :: rest)
      else []

/-- The components of a pattern.  A slash at the end opens no further
component. -/
def componentTexts (pattern : String) : List String :=
  let pieces := Path.pieces pattern
  let pieces := if Path.isAbsolute pattern then pieces.tail else pieces
  match pieces.getLast? with
  | some "" => if pieces.length = 1 then [""] else pieces.dropLast
  | _ => pieces

/-- A path of 4096 bytes or more leads nowhere, and every step lengthens the path
or uses up a component, so this many steps reach everything. -/
def stepLimit (components : List Pattern) : Nat := 4096 + components.length

/-- All that a pattern matches.  The whole pattern has to be well formed, and so
has each of its components on its own. -/
def walk (files : FileSystem) (pattern : String) : Except PatternError (List Found) := do
  let _ ← Pattern.parse pattern
  let components ← (componentTexts pattern).mapM Pattern.parse
  let start := if Path.isAbsolute pattern then "/" else "."
  return continueFrom files (Path.endsInSlash pattern) (stepLimit components)
    (reach files start) components

end OpcodeTables.Glob
