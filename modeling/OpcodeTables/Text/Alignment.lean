/-!
# Alignment in columns

Columns count code points.  A text that is wider than its column is kept
whole: alignment adds spaces and never takes a character away.
-/

namespace OpcodeTables.Text

def spaces (count : Nat) : String :=
  String.ofList (List.replicate count ' ')

/-- Fills a text up with spaces in front of it. -/
def alignRight (width : Nat) (text : String) : String :=
  spaces (width - text.length) ++ text

/-- Fills a text up with spaces behind it. -/
def alignLeft (width : Nat) (text : String) : String :=
  text ++ spaces (width - text.length)

end OpcodeTables.Text
