import OpcodeTables.Text.CharSet.Age
import OpcodeTables.Text.CharSet.Segmentation

/-!
# Sets of characters by name

A property, a general category or a script goes by several names.  Two names are
the same when they differ only in letter case, in blanks, dashes and low lines, and
in the word `is` in front.
-/

namespace OpcodeTables.CharSet

/-- A name in small letters and without separators.  What is no ASCII character is
left out too.  The name `isc` keeps its beginning, for it is a name by itself. -/
def plainName (name : List Char) : String :=
  let plain (name : List Char) : List Char :=
    (name.filter fun c => c.toNat < 0x80 && !(['_', '-', ' '].contains c)).map Char.toLower
  match name with
  | first :: second :: rest =>
    if [first.toLower, second.toLower] = ['i', 's'] then
      if plain rest = ['c'] then "isc" else String.ofList (plain rest)
    else String.ofList (plain name)
  | _ => String.ofList (plain name)

def assigned : CharSet := (Category.chars .unassigned).complement

/-- A set that counts as a general category. -/
def ofCategory? (name : String) : Option CharSet :=
  match name with
  | "any" => some all
  | "ascii" => some ascii
  | "assigned" => some assigned
  | _ => Category.charsNamed? name

def ofScript? (name : String) : Option CharSet := (Script.named? name).map Script.chars

/-- The set that has a name: a property, a general category or a script. -/
def ofName? (name : List Char) : Option CharSet :=
  let name := plainName name
  ofPropertyNamed? name <|> ofCategory? name <|> ofScript? name

def ofClasses? (classes : List (List String × CharSet)) (name : String) : Option CharSet :=
  (classes.find? fun named => named.1.contains name).map (·.2)

/-- The characters for which a property has a value. -/
def ofValue? (property value : List Char) : Option CharSet :=
  let value := plainName value
  match plainName property with
  | "gc" | "generalcategory" => ofCategory? value
  | "sc" | "script" => ofScript? value
  | "scx" | "scriptextensions" => (Script.named? value).map Script.extendedChars
  | "age" => Age.charsNamed? value
  | "gcb" | "graphemeclusterbreak" => ofClasses? clusterBreaks value
  | "wb" | "wordbreak" => ofClasses? wordBreaks value
  | "sb" | "sentencebreak" => ofClasses? sentenceBreaks value
  | _ => none

end OpcodeTables.CharSet
