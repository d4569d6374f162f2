import OpcodeTables.FileSystem

/-!
# Listings

The entries below a directory as lines of text.
-/

namespace OpcodeTables.FileSystem

def kindMark : Node → String
  | .file _ => ""
  | .directory => "/"
  | .link _ => "@"

/-- The path of every entry below the working directory, with the mark of its
kind, in byte order. -/
def listing (files : FileSystem) : List String :=
  let below := files.entries.filter fun entry =>
    files.workDirectory.isPrefixOf entry.1 && files.workDirectory != entry.1
  let lines := below.map fun entry =>
    String.intercalate "/" (entry.1.drop files.workDirectory.length) ++ kindMark entry.2
  lines.mergeSort fun line other => decide (line ≤ other)

end OpcodeTables.FileSystem
