/-!
# Errors of the file system

A `SystemError` is a reason for which the operating system refuses an operation;
it has a number and a text.  A `FileError` is one of these, a fault of the path
that is found before the operating system is asked, or a reason given in words.
-/

namespace OpcodeTables

/-- An error that the system reports. -/
inductive SystemError where
  | notPermitted
  | notFound
  | permissionDenied
  | fileExists
  | notADirectory
  | isADirectory
  | invalidArgument
  | tooManyOpenFiles
  | nameTooLong
  | tooManyLinks
  deriving DecidableEq, Repr

namespace SystemError

def number : SystemError → Nat
  | .notPermitted => 1
  | .notFound => 2
  | .permissionDenied => 13
  | .fileExists => 17
  | .notADirectory => 20
  | .isADirectory => 21
  | .invalidArgument => 22
  | .tooManyOpenFiles => 24
  | .nameTooLong => 36
  | .tooManyLinks => 40

def reason : SystemError → String
  | .notPermitted => "Operation not permitted"
  | .notFound => "No such file or directory"
  | .permissionDenied => "Permission denied"
  | .fileExists => "File exists"
  | .notADirectory => "Not a directory"
  | .isADirectory => "Is a directory"
  | .invalidArgument => "Invalid argument"
  | .tooManyOpenFiles => "Too many open files"
  | .nameTooLong => "File name too long"
  | .tooManyLinks => "Too many levels of symbolic links"

/-- The error as messages show it, with its number. -/
def text (error : SystemError) : String :=
  error.reason ++ " (os error " ++ Nat.repr error.number ++ ")"

def all : List SystemError :=
  [.notPermitted, .notFound, .permissionDenied, .fileExists, .notADirectory, .isADirectory,
    .invalidArgument, .tooManyOpenFiles, .nameTooLong, .tooManyLinks]

def ofNumber? (number : Nat) : Option SystemError :=
  all.find? fun error => error.number == number

end SystemError

/-- Why a path could not be used. -/
inductive FileError where
  | system (error : SystemError)
  /-- The path holds a NUL character. -/
  | nulInPath
  | other (reason : String)
  deriving DecidableEq, Repr

def FileError.text : FileError → String
  | .system error => error.text
  | .nulInPath => "file name contained an unexpected NUL byte"
  | .other reason => reason

end OpcodeTables
