/-!
# Paths

A path is a text; slashes separate its pieces.  Empty pieces and the piece `.`
name nothing of their own, apart from a `.` at the very start of a relative path.
-/

namespace OpcodeTables.Path

/-- The pieces between the slashes. -/
def pieces (path : String) : List String :=
  (path.toList.splitOn '/').map String.ofList

def isAbsolute (path : String) : Bool := path.toList.head? == some '/'

def endsInSlash (path : String) : Bool := path.toList.getLast? == some '/'

/-- Whether a piece names nothing. -/
def isIdle (piece : String) : Bool := piece == "" || piece == "."

/-- The path of `name` below a directory.  An absolute `name` stands for
itself. -/
def join (directory name : String) : String :=
  if isAbsolute name || directory == "" then name
  else if endsInSlash directory then directory ++ name
  else directory ++ "/" ++ name

/-- The last name in a path, if it is the name of an entry. -/
def fileName? (path : String) : Option String :=
  match ((pieces path).filter fun piece => !isIdle piece).getLast? with
  | none => none
  | some name => if name == ".." then none else some name

/-- A file name without its extension: what stands before its last dot, or all
of it where nothing does. -/
def stemOf (name : String) : String :=
  match name.toList.reverse.dropWhile (· != '.') with
  | [] => name
  | [_] => name
  | _ :: stem => String.ofList stem.reverse

/-- The last name in a path without its extension. -/
def stem? (path : String) : Option String := (fileName? path).map stemOf

/-- Whether a path is the working directory, written with dots and slashes
only. -/
def isHere (path : String) : Bool :=
  match pieces path with
  | "." :: rest => rest.all isIdle
  | _ => false

/-- Leaves out the pieces at the end that name nothing. -/
def dropIdleEnd (pieces : List String) : List String :=
  (pieces.reverse.dropWhile isIdle).reverse

/-- The path without its last name.  The root and the empty path have none. -/
def parent? (path : String) : Option String :=
  match pieces path with
  | [] => none
  | first :: rest =>
    match dropIdleEnd rest with
    | [] => if first == "" then none else some ""
    | named@(_ :: _) =>
      match first :: dropIdleEnd named.dropLast with
      | [""] => some "/"
      | kept => some (String.intercalate "/" kept)

/-- A path and the paths above it, at most `count` of them. -/
def withParents (path : String) : Nat → List String
  | 0 => []
  | count + 1 =>
    path :: match parent? path with
      | none => []
      | some above => withParents above count

/-- A path and every path above it. -/
def ancestors (path : String) : List String :=
  withParents path (pieces path).length.succ

end OpcodeTables.Path
