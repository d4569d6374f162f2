import Mathlib.Data.List.Flatten
import OpcodeTables.Proofs.Annotated.Reading
import OpcodeTables.Text.Hexadecimal
import OpcodeTables.Text.Json

/-!
# Reading JSON documents

The reader takes every JSON document: any blanks between the parts, any of the escapes
inside a string, numbers with a sign, a fraction and an exponent.  It was written for
no printer in particular, and what a document is rendered to is read back as that
document.

Each reader takes the text from some place on and gives, with what it read, the text
behind it.  A step of the reader takes at least one character, so as many steps as the
text has characters are enough.
-/

namespace OpcodeTables.Json

open Annotated Text

/-- A document as it is read.  A number is its digits, without the point, and the power
of ten that they are multiplied with. -/
inductive Tree where
  | null
  | boolean (value : Bool)
  | number (digits exponent : Int)
  | string (text : String)
  | array (items : List Tree)
  | object (fields : List (String × Tree))

/-! ## Strings -/

def shortEscapes : List (Char × Char) :=
  [('"', '"'), ('\\', '\\'), ('/', '/'), ('b', '\x08'), ('f', '\x0c'), ('n', '\n'), ('r', '\r'),
    ('t', '\t')]

def codeUnit? (text : List Char) : Option (Nat × List Char) := do
  let code ← ofHexDigits? (text.take 4)
  if text.length < 4 then none else some (code, text.drop 4)

def isHighSurrogate (code : Nat) : Bool := 0xD800 ≤ code && code < 0xDC00

def isLowSurrogate (code : Nat) : Bool := 0xDC00 ≤ code && code < 0xE000

/-- Reads the character that stands for a code unit, or for two of them. -/
def unicode? (text : List Char) : Option (Char × List Char) := do
  let (code, rest) ← codeUnit? text
  if isHighSurrogate code then
    let rest ← after? ['\\', 'u'] rest
    let (low, rest) ← codeUnit? rest
    if isLowSurrogate low then
      some (Char.ofNat (0x10000 + 0x400 * (code - 0xD800) + (low - 0xDC00)), rest)
    else none
  else if isLowSurrogate code then none
  else some (Char.ofNat code, rest)

/-- Reads what stands behind a backslash. -/
def escaped? : List Char → Option (Char × List Char)
  | [] => none
  | c :: rest =>
    if c = 'u' then unicode? rest else (shortEscapes.lookup c).map fun meant => (meant, rest)

/-- Reads one character of a string. -/
def character? : List Char → Option (Char × List Char)
  | [] => none
  | c :: rest =>
    if c = '\\' then escaped? rest
    else if c = '"' ∨ c.toNat < 0x20 then none
    else some (c, rest)

/-- Reads the characters of a string up to its closing quote. -/
def characters? : Nat → List Char → Option (List Char × List Char)
  | 0, _ => none
  | steps + 1, text =>
    if text.head? = some '"' then some ([], text.tail)
    else do
      let (c, rest) ← character? text
      let (others, rest) ← characters? steps rest
      return (c :: others, rest)

def string? (steps : Nat) (text : List Char) : Option (String × List Char) := do
  let rest ← after? ['"'] text
  let (characters, rest) ← characters? steps rest
  return (String.ofList characters, rest)

/-! ## Numbers -/

def sign (text : List Char) : Int × List Char :=
  if text.head? = some '-' then (-1, text.tail) else (1, text)

/-- No zero stands in front of another digit. -/
def whole? (text : List Char) : Option (List Char × List Char) := do
  let (digits, rest) ← someOf? Char.isDigit text
  if digits.head? = some '0' ∧ digits ≠ ['0'] then none else some (digits, rest)

def fraction? (text : List Char) : Option (List Char × List Char) :=
  if text.head? = some '.' then someOf? Char.isDigit text.tail else some ([], text)

def exponent? (text : List Char) : Option (Int × List Char) :=
  if text.head? = some 'e' ∨ text.head? = some 'E' then do
    let (factor, rest) :=
      if text.tail.head? = some '+' then (1, text.tail.tail) else sign text.tail
    let (digits, rest) ← someOf? Char.isDigit rest
    return (factor * Nat.ofDigitChars 10 digits 0, rest)
  else some (0, text)

/-- Reads a number with its fraction and exponent, where it has these. -/
def number? (text : List Char) : Option (Tree × List Char) := do
  let (factor, rest) := sign text
  let (whole, rest) ← whole? rest
  let (fraction, rest) ← fraction? rest
  let (exponent, rest) ← exponent? rest
  return (.number (factor * Nat.ofDigitChars 10 (whole ++ fraction) 0)
    (exponent - fraction.length), rest)

/-! ## Documents -/

def isSpace (c : Char) : Bool := c = ' ' || c = '\t' || c = '\n' || c = '\r'

def skipSpace (text : List Char) : List Char := text.dropWhile isSpace

def words : List (String × Tree) :=
  [("null", .null), ("true", .boolean true), ("false", .boolean false)]

def word? (text : List Char) : Option (Tree × List Char) :=
  words.findSome? fun word => (after? word.1.toList text).map fun rest => (word.2, rest)

/-- Reads the items of a bracket behind the first one, and the closing bracket. -/
def more? {α : Type} (close : Char) (read : List Char → Option (α × List Char)) :
    Nat → List Char → Option (List α × List Char)
  | 0, _ => none
  | steps + 1, text =>
    match after? [close] (skipSpace text) with
    | some rest => some ([], rest)
    | none => do
      let rest ← after? [','] (skipSpace text)
      let (item, rest) ← read (skipSpace rest)
      let (items, rest) ← more? close read steps rest
      return (item :: items, rest)

/-- Reads all that stands behind an opening bracket, and the closing bracket. -/
def sequence? {α : Type} (close : Char) (read : List Char → Option (α × List Char))
    (steps : Nat) (text : List Char) : Option (List α × List Char) :=
  match after? [close] (skipSpace text) with
  | some rest => some ([], rest)
  | none => do
    let (first, rest) ← read (skipSpace text)
    let (items, rest) ← more? close read steps rest
    return (first :: items, rest)

/-- Reads a key, a colon and a value. -/
def field? (read : List Char → Option (Tree × List Char)) (steps : Nat) (text : List Char) :
    Option ((String × Tree) × List Char) := do
  let (key, rest) ← string? steps text
  let rest ← after? [':'] (skipSpace rest)
  let (value, rest) ← read (skipSpace rest)
  return ((key, value), rest)

/-- Reads a value in front of which no blanks stand. -/
def value? : Nat → List Char → Option (Tree × List Char)
  | 0, _ => none
  | _ + 1, [] => none
  | steps + 1, c :: rest =>
    if c = '"' then
      (string? steps (c :: rest)).map fun read => (.string read.1, read.2)
    else if c = '[' then
      (sequence? ']' (value? steps) steps rest).map fun read => (.array read.1, read.2)
    else if c = '{' then
      (sequence? '}' (field? (value? steps) steps) steps rest).map fun read =>
        (.object read.1, read.2)
    else (word? (c :: rest)).or (number? (c :: rest))

/-- The document that a text is, from its beginning to its end. -/
def parse? (text : String) : Option Tree := do
  let (tree, rest) ← value? (text.length + 1) (skipSpace text.toList)
  if skipSpace rest = [] then some tree else none

/-! ## What is rendered is read back -/

theorem after?_singleton (c : Char) (rest : List Char) : after? [c] (c :: rest) = some rest :=
  after?_eq_some_iff.mpr rfl

theorem after?_cons_of_ne {c next : Char} (hne : next ≠ c) (word rest : List Char) :
    after? (c :: word) (next :: rest) = none := by
  simp [after?, hne.symm]

theorem hexDigit?_lower (digit : Nibble) : hexDigit? digit.lower = some digit.val := by
  revert digit
  decide

theorem codeUnit?_codeDigits {code : Nat} (hcode : code < 256) (rest : List Char) :
    codeUnit? ('0' :: '0' :: (codeDigits code ++ rest)) = some (code, rest) := by
  have hzero : hexDigit? '0' = some 0 := by decide
  have hvalue : 16 * (code / 16 % 16) + code % 16 = code := by omega
  simp [codeUnit?, codeDigits, ofHexDigits?, hexDigit?_lower, hzero, Fin.ofNat, hvalue]

theorem escapeChar_ne_nil (c : Char) : escapeChar c ≠ [] := by
  unfold escapeChar
  split_ifs <;> simp

theorem head?_escapeChar_append (c : Char) (rest : List Char) :
    (escapeChar c ++ rest).head? ≠ some '"' := by
  unfold escapeChar
  split_ifs <;> simp_all

theorem character?_escapeChar (c : Char) (rest : List Char) :
    character? (escapeChar c ++ rest) = some (c, rest) := by
  unfold escapeChar
  split_ifs with hquote hbackslash hbackspace hfeed hnewline hreturn htab hcontrol
  all_goals try (subst c; rfl)
  · have hread := codeUnit?_codeDigits (by omega : c.toNat < 256) rest
    have hhigh : isHighSurrogate c.toNat = false := by
      simp only [isHighSurrogate, Bool.and_eq_false_iff, decide_eq_false_iff_not]
      omega
    have hlow : isLowSurrogate c.toNat = false := by
      simp only [isLowSurrogate, Bool.and_eq_false_iff, decide_eq_false_iff_not]
      omega
    change unicode? ('0' :: '0' :: (codeDigits c.toNat ++ rest)) = some (c, rest)
    simp [unicode?, hread, hhigh, hlow]
  · simp [character?, hquote, hbackslash, hcontrol]

theorem characters?_escaped (text rest : List Char) {steps : Nat}
    (hsteps : (text.flatMap escapeChar).length < steps) :
    characters? steps (text.flatMap escapeChar ++ '"' :: rest) = some (text, rest) := by
  induction text generalizing steps with
  | nil =>
      cases steps with
      | zero => contradiction
      | succ steps => rfl
  | cons c text ih =>
      cases steps with
      | zero => contradiction
      | succ steps =>
          have hpos := List.length_pos_iff.mpr (escapeChar_ne_nil c)
          rw [List.flatMap_cons, List.length_append] at hsteps
          rw [List.flatMap_cons, List.append_assoc, characters?,
            if_neg (head?_escapeChar_append c _), character?_escapeChar]
          simp only [Option.bind_eq_bind, Option.bind_some, ih (by omega : _ < steps)]
          rfl

theorem quoted_append (text : String) (rest : List Char) :
    quoted text ++ rest = '"' :: (text.toList.flatMap escapeChar ++ '"' :: rest) := by
  simp [quoted]

theorem string?_quoted (text : String) (rest : List Char) {steps : Nat}
    (hsteps : (quoted text).length ≤ steps + 1) :
    string? steps (quoted text ++ rest) = some (text, rest) := by
  have hlength : (text.toList.flatMap escapeChar).length < steps := by
    simp only [quoted, List.cons_append, List.length_cons, List.length_append] at hsteps
    omega
  have hread := characters?_escaped text.toList rest hlength
  rw [quoted_append, string?, after?_singleton]
  simp only [Option.bind_eq_bind, Option.bind_some, hread, String.ofList_toList]
  rfl

/-! ## Numbers -/

/-- What can stand behind a number that is complete. -/
def EndsNumber (rest : List Char) : Prop :=
  ∀ c ∈ rest.head?, c.isDigit = false ∧ c ≠ '.' ∧ c ≠ 'e' ∧ c ≠ 'E'

theorem EndsNumber.takeWhile {rest : List Char} (hrest : EndsNumber rest) :
    rest.takeWhile Char.isDigit = [] := by
  cases rest with
  | nil => rfl
  | cons c rest => exact List.takeWhile_cons_of_neg (by simp [(hrest c rfl).1])

theorem head?_toDigits {value : Nat} (hzero : (Nat.toDigits 10 value).head? = some '0') :
    Nat.toDigits 10 value = ['0'] := by
  induction value using Nat.strong_induction_on with
  | h value ih =>
    rw [Nat.toDigits_eq_if (by decide)] at hzero ⊢
    split at hzero
    next hlt =>
      rw [if_pos hlt]
      rw [List.head?_cons, Option.some.injEq] at hzero
      rw [hzero]
    next hle =>
      rw [List.head?_append, Option.or_of_isSome (by simp [Nat.toDigits_ne_nil])] at hzero
      have hshort := ih (value / 10) (by omega) hzero
      have hquotient : Nat.ofDigitChars 10 (Nat.toDigits 10 (value / 10)) 0 = value / 10 :=
        Nat.ofDigitChars_toDigits (by decide) (by decide)
      rw [hshort] at hquotient
      have hnone : Nat.ofDigitChars 10 ['0'] 0 = 0 := rfl
      -- the leading zero is the whole quotient, which is not zero
      omega

theorem exists_toDigits_eq_cons (value : Nat) :
    ∃ first others, Nat.toDigits 10 value = first :: others ∧ first.isDigit = true := by
  obtain ⟨first, others, hfirst⟩ :=
    List.exists_cons_of_ne_nil (Nat.toDigits_ne_nil (n := value) (b := 10))
  have hmem : first ∈ Nat.toDigits 10 value := hfirst ▸ List.mem_cons_self
  exact ⟨first, others, hfirst, Nat.isDigit_of_mem_toDigits (by decide) (by decide) hmem⟩

theorem ne_of_isDigit {c other : Char} (hc : c.isDigit = true) (hother : other.isDigit = false) :
    c ≠ other := by
  rintro rfl
  rw [hc] at hother
  contradiction

theorem number?_toDigits (value : Nat) {rest : List Char} (hrest : EndsNumber rest) :
    number? (Nat.toDigits 10 value ++ rest) = some (.number value 0, rest) := by
  have hsign : sign (Nat.toDigits 10 value ++ rest) = (1, Nat.toDigits 10 value ++ rest) := by
    obtain ⟨first, others, hfirst, hdigit⟩ := exists_toDigits_eq_cons value
    rw [hfirst]
    exact if_neg (by simpa using ne_of_isDigit hdigit (by decide))
  have hwhole : whole? (Nat.toDigits 10 value ++ rest) = some (Nat.toDigits 10 value, rest) := by
    have hdigits : ∀ c ∈ Nat.toDigits 10 value, c.isDigit = true := fun _ hmem =>
      Nat.isDigit_of_mem_toDigits (by decide) (by decide) hmem
    have hread := someOf?_word Nat.toDigits_ne_nil hdigits hrest.takeWhile
    have hzeros : ¬ ((Nat.toDigits 10 value).head? = some '0' ∧
        Nat.toDigits 10 value ≠ ['0']) := fun hboth => hboth.2 (head?_toDigits hboth.1)
    simp only [whole?, hread, Option.bind_eq_bind, Option.bind_some, if_neg hzeros]
  have hfraction : fraction? rest = some ([], rest) :=
    if_neg fun hhead => (hrest '.' hhead).2.1 rfl
  have hexponent : exponent? rest = some (0, rest) := by
    apply if_neg
    rintro (hhead | hhead)
    · exact (hrest 'e' hhead).2.2.1 rfl
    · exact (hrest 'E' hhead).2.2.2 rfl
  have hvalue : Nat.ofDigitChars 10 (Nat.toDigits 10 value) 0 = value :=
    Nat.ofDigitChars_toDigits (by decide) (by decide)
  rw [number?, hsign]
  simp [hwhole, hfraction, hexponent, hvalue]

/-! ## Documents -/

mutual

/-- The document as a reader finds it. -/
def tree : Json → Tree
  | .number value => .number value 0
  | .string text => .string text
  | .array items => .array (trees items)
  | .object fields => .object (fieldTrees fields)

def trees : List Json → List Tree
  | [] => []
  | item :: rest => tree item :: trees rest

def fieldTrees : List (String × Json) → List (String × Tree)
  | [] => []
  | (key, value) :: rest => (key, tree value) :: fieldTrees rest

end

theorem trees_eq_map (items : List Json) : trees items = items.map tree := by
  induction items with
  | nil => rfl
  | cons item items ih => rw [trees, ih, List.map_cons]

theorem trees_map {α : Type} {document : α → Json} {found : α → Tree}
    (hfound : ∀ item, tree (document item) = found item) (items : List α) :
    trees (items.map document) = items.map found := by
  rw [trees_eq_map, List.map_map]
  exact List.map_congr_left fun item _ => hfound item

theorem fieldTrees_eq_map (fields : List (String × Json)) :
    fieldTrees fields = fields.map fun field => (field.1, tree field.2) := by
  induction fields with
  | nil => rfl
  | cons field fields ih => rw [fieldTrees, ih, List.map_cons]

theorem skipSpace_lineStart (level : Nat) (rest : List Char) :
    skipSpace (lineStart level ++ rest) = skipSpace rest := by
  have hspaces : ∀ c ∈ lineStart level, isSpace c = true := by
    intro c hmem
    rcases List.mem_cons.mp hmem with rfl | hspace
    · rfl
    · rw [List.eq_of_mem_replicate hspace]
      rfl
  exact List.dropWhile_append_of_pos hspaces

theorem skipSpace_cons {c : Char} (hc : isSpace c = false) (rest : List Char) :
    skipSpace (c :: rest) = c :: rest :=
  List.dropWhile_cons_of_neg (by simp [hc])

theorem endsNumber_cons {c : Char} {rest : List Char} (hdigit : c.isDigit = false)
    (hc : c ≠ '.' ∧ c ≠ 'e' ∧ c ≠ 'E') : EndsNumber (c :: rest) := by
  intro first hfirst
  obtain rfl : c = first := by simpa using hfirst
  exact ⟨hdigit, hc⟩

/-! ### What stands between two brackets -/

section Between

variable {α β : Type}

/-- The items behind the first one, each on a line of its own. -/
def behind (level : Nat) (print : α → List Char) (items : List α) : List Char :=
  items.flatMap fun item => ',' :: lineStart level ++ print item

/-- The items between two brackets, each on a line of its own. -/
def between (level : Nat) (print : α → List Char) : List α → List Char
  | [] => []
  | first :: rest =>
    lineStart (level + 1) ++ print first ++ behind (level + 1) print rest ++ lineStart level

theorem behind_cons (level : Nat) (print : α → List Char) (item : α) (items : List α)
    (rest : List Char) :
    behind level print (item :: items) ++ rest =
      ',' :: (lineStart level ++ (print item ++ (behind level print items ++ rest))) := by
  simp [behind]

theorem endsNumber_behind (level below : Nat) (print : α → List Char) (items : List α)
    (rest : List Char) : EndsNumber (behind level print items ++ (lineStart below ++ rest)) := by
  cases items with
  | nil => exact endsNumber_cons (by decide) (by decide)
  | cons item items =>
      rw [behind_cons]
      exact endsNumber_cons (by decide) (by decide)

theorem length_le_behind (level : Nat) (print : α → List Char) (items : List α) :
    items.length ≤ (behind level print items).length := by
  induction items with
  | nil => exact Nat.zero_le _
  | cons item items ih =>
      simp only [behind, List.flatMap_cons, List.length_append, List.length_cons] at ih ⊢
      omega

theorem length_le_between (level : Nat) (print : α → List Char) (items : List α) :
    items.length ≤ (between level print items).length := by
  cases items with
  | nil => exact Nat.zero_le _
  | cons first items =>
      have hbehind := length_le_behind (level + 1) print items
      simp only [between, lineStart, List.length_append, List.length_cons] at hbehind ⊢
      omega

theorem length_print_le_between (level : Nat) (print : α → List Char) {item : α}
    {items : List α} (hmem : item ∈ items) :
    (print item).length ≤ (between level print items).length := by
  cases items with
  | nil => contradiction
  | cons first items =>
      simp only [between, List.length_append]
      rcases List.mem_cons.mp hmem with rfl | hmem
      · omega
      · have hone := ((List.singleton_sublist.mpr hmem).flatMap
          fun item => ',' :: lineStart (level + 1) ++ print item).length_le
        simp only [List.flatMap_singleton, List.cons_append, List.length_cons,
          List.length_append] at hone
        simp only [behind, List.cons_append]
        omega

/-- The reader finds an item in its text, whatever stands behind it that no number could go
on with, and does not take the text for the closing bracket. -/
structure Finds (read : List Char → Option (β × List Char)) (close : Char) (text : List Char)
    (meaning : β) : Prop where
  begins : ∃ first others, text = first :: others ∧ isSpace first = false ∧ first ≠ close
  reads : ∀ rest, EndsNumber rest → read (text ++ rest) = some (meaning, rest)

variable {read : List Char → Option (β × List Char)} {close : Char} {text : List Char}
  {meaning : β}

theorem Finds.skipSpace_append (hfinds : Finds read close text meaning) (rest : List Char) :
    skipSpace (text ++ rest) = text ++ rest := by
  obtain ⟨first, others, rfl, hspace, -⟩ := hfinds.begins
  exact skipSpace_cons hspace _

theorem Finds.after?_append (hfinds : Finds read close text meaning) (rest : List Char) :
    after? [close] (text ++ rest) = none := by
  obtain ⟨first, others, rfl, -, hclose⟩ := hfinds.begins
  exact after?_cons_of_ne hclose _ _

variable {print : α → List Char} {value : α → β} {items : List α}

theorem more?_behind (hclose : isSpace close = false ∧ ',' ≠ close)
    (hitems : ∀ item ∈ items, Finds read close (print item) (value item)) (level below : Nat)
    (rest : List Char) {steps : Nat} (hsteps : items.length < steps) :
    more? close read steps (behind level print items ++ (lineStart below ++ close :: rest)) =
      some (items.map value, rest) := by
  induction items generalizing steps with
  | nil =>
      cases steps with
      | zero => contradiction
      | succ steps =>
          have hnone : behind level print [] = [] := rfl
          rw [hnone, List.nil_append, more?, skipSpace_lineStart, skipSpace_cons hclose.1,
            after?_singleton]
          rfl
  | cons item items ih =>
      rw [List.forall_mem_cons] at hitems
      cases steps with
      | zero => contradiction
      | succ steps =>
          -- a comma or a line break stands behind the item, so a number ends there
          have hitem := hitems.1.reads _
            (endsNumber_behind level below print items (close :: rest))
          have hmore := ih hitems.2 (Nat.lt_of_succ_lt_succ hsteps)
          rw [behind_cons, more?, skipSpace_cons (by decide), after?_cons_of_ne hclose.2]
          simp only [after?_singleton, Option.bind_eq_bind, Option.bind_some,
            skipSpace_lineStart, hitems.1.skipSpace_append, hitem, hmore]
          rfl

theorem sequence?_between (hclose : isSpace close = false ∧ ',' ≠ close)
    (hitems : ∀ item ∈ items, Finds read close (print item) (value item)) (level : Nat)
    (rest : List Char) {steps : Nat} (hsteps : items.length ≤ steps) :
    sequence? close read steps (between level print items ++ close :: rest) =
      some (items.map value, rest) := by
  cases items with
  | nil =>
      rw [between, List.nil_append, sequence?, skipSpace_cons hclose.1, after?_singleton]
      rfl
  | cons first items =>
      rw [List.forall_mem_cons] at hitems
      have hchars : between level print (first :: items) ++ close :: rest =
          lineStart (level + 1) ++ (print first ++
            (behind (level + 1) print items ++ (lineStart level ++ close :: rest))) := by
        simp [between]
      have hfirst := hitems.1.reads _
        (endsNumber_behind (level + 1) level print items (close :: rest))
      have hmore := more?_behind hclose hitems.2 (level + 1) level rest hsteps
      rw [hchars, sequence?, skipSpace_lineStart, hitems.1.skipSpace_append,
        hitems.1.after?_append]
      simp only [hfirst, hmore, Option.bind_eq_bind, Option.bind_some]
      rfl

end Between

/-! ### Values -/

def fieldChars (level : Nat) (field : String × Json) : List Char :=
  quoted field.1 ++ ':' :: ' ' :: chars level field.2

theorem itemsChars_eq_behind (level : Nat) (items : List Json) :
    itemsChars level items = behind level (chars level) items := by
  induction items with
  | nil => rw [itemsChars]; rfl
  | cons item items ih => rw [itemsChars, ih]; rfl

theorem fieldsChars_eq_behind (level : Nat) (fields : List (String × Json)) :
    fieldsChars level fields = behind level (fieldChars level) fields := by
  induction fields with
  | nil => rw [fieldsChars]; rfl
  | cons field fields ih => rw [fieldsChars, ih]; simp [behind, fieldChars]

theorem chars_array (level : Nat) (items : List Json) :
    chars level (.array items) = '[' :: (between level (chars (level + 1)) items ++ [']']) := by
  cases items with
  | nil => rw [chars]; rfl
  | cons first items => rw [chars, itemsChars_eq_behind, between]; simp

theorem chars_object (level : Nat) (fields : List (String × Json)) :
    chars level (.object fields) =
      '{' :: (between level (fieldChars (level + 1)) fields ++ ['}']) := by
  cases fields with
  | nil => rw [chars]; rfl
  | cons first fields => rw [chars, fieldsChars_eq_behind, between]; simp [fieldChars]

/-- A value begins with neither a blank nor a closing bracket. -/
theorem exists_chars_eq_cons (level : Nat) (value : Json) :
    ∃ first others, chars level value = first :: others ∧ isSpace first = false ∧ first ≠ ']' := by
  cases value with
  | number value =>
      obtain ⟨first, others, hfirst, hdigit⟩ := exists_toDigits_eq_cons value
      refine ⟨first, others, by rw [chars, Nat.toList_repr, hfirst], ?_,
        ne_of_isDigit hdigit (by decide)⟩
      simp [isSpace, ne_of_isDigit hdigit]
  | string text => exact ⟨'"', _, by rw [chars, quoted]; rfl, by decide, by decide⟩
  | array items => exact ⟨'[', _, chars_array level items, by decide, by decide⟩
  | object fields => exact ⟨'{', _, chars_object level fields, by decide, by decide⟩

theorem skipSpace_chars (level : Nat) (value : Json) (rest : List Char) :
    skipSpace (chars level value ++ rest) = chars level value ++ rest := by
  obtain ⟨first, others, hchars, hspace, -⟩ := exists_chars_eq_cons level value
  rw [hchars, List.cons_append, skipSpace_cons hspace]

/-- Wherever the value is written it is read, if nothing behind it could belong to it. -/
def ReadsBack (value : Json) : Prop :=
  ∀ (level steps : Nat) (rest : List Char), EndsNumber rest →
    (chars level value).length ≤ steps →
      value? steps (chars level value ++ rest) = some (tree value, rest)

theorem ReadsBack.of_succ {value : Json}
    (hread : ∀ (level steps : Nat) (rest : List Char), EndsNumber rest →
      (chars level value).length ≤ steps + 1 →
        value? (steps + 1) (chars level value ++ rest) = some (tree value, rest)) :
    ReadsBack value := by
  intro level steps rest hrest hsteps
  cases steps with
  | zero =>
      -- a value has a first character, so one step at least is there to read it
      obtain ⟨first, others, hchars, -⟩ := exists_chars_eq_cons level value
      rw [hchars] at hsteps
      contradiction
  | succ steps => exact hread level steps rest hrest hsteps

theorem word?_of_isDigit {c : Char} (hc : c.isDigit = true) (rest : List Char) :
    word? (c :: rest) = none := by
  have hnone : ∀ word ∈ words, after? word.1.toList (c :: rest) = none := by
    simp only [words, List.forall_mem_cons]
    exact ⟨after?_cons_of_ne (ne_of_isDigit hc (by decide)) _ _,
      after?_cons_of_ne (ne_of_isDigit hc (by decide)) _ _,
      after?_cons_of_ne (ne_of_isDigit hc (by decide)) _ _, by simp⟩
  rw [word?, List.findSome?_eq_none_iff]
  intro word hmem
  rw [hnone word hmem]
  rfl

theorem readsBack_number (value : Nat) : ReadsBack (.number value) := by
  apply ReadsBack.of_succ
  intro level steps rest hrest _
  obtain ⟨first, others, hfirst, hdigit⟩ := exists_toDigits_eq_cons value
  have hread := number?_toDigits value hrest
  have hword := word?_of_isDigit hdigit (others ++ rest)
  rw [hfirst, List.cons_append] at hread
  rw [chars, Nat.toList_repr, hfirst, List.cons_append, value?,
    if_neg (ne_of_isDigit hdigit (by decide)), if_neg (ne_of_isDigit hdigit (by decide)),
    if_neg (ne_of_isDigit hdigit (by decide)), hword, hread]
  rfl

theorem readsBack_string (text : String) : ReadsBack (.string text) := by
  apply ReadsBack.of_succ
  intro level steps rest _ hsteps
  rw [chars] at hsteps ⊢
  have hread := string?_quoted text rest hsteps
  rw [quoted_append] at hread ⊢
  rw [value?, if_pos rfl, hread]
  rfl

theorem readsBack_array {items : List Json} (hitems : ∀ item ∈ items, ReadsBack item) :
    ReadsBack (.array items) := by
  apply ReadsBack.of_succ
  intro level steps rest _ hsteps
  simp only [chars_array, List.length_cons, List.length_append] at hsteps
  have hcount := length_le_between level (chars (level + 1)) items
  have hfinds : ∀ item ∈ items,
      Finds (value? steps) ']' (chars (level + 1) item) (tree item) := by
    intro item hmem
    have hlength := length_print_le_between level (chars (level + 1)) hmem
    exact ⟨exists_chars_eq_cons (level + 1) item,
      fun rest hrest => hitems item hmem (level + 1) steps rest hrest (by omega)⟩
  have hread := sequence?_between (by decide) hfinds level rest (by omega : items.length ≤ steps)
  rw [chars_array, List.cons_append, List.append_assoc, List.singleton_append, value?,
    if_neg (by decide), if_pos rfl, hread, tree, trees_eq_map]
  rfl

theorem ReadsBack.field? {field : String × Json} (hvalue : ReadsBack field.2) (level : Nat)
    {steps : Nat} {rest : List Char} (hrest : EndsNumber rest)
    (hsteps : (fieldChars level field).length ≤ steps) :
    field? (value? steps) steps (fieldChars level field ++ rest) =
      some ((field.1, tree field.2), rest) := by
  have hchars : fieldChars level field ++ rest =
      quoted field.1 ++ ':' :: ' ' :: (chars level field.2 ++ rest) := by
    simp [fieldChars]
  simp only [fieldChars, List.length_append, List.length_cons] at hsteps
  have hkey := string?_quoted field.1 (':' :: ' ' :: (chars level field.2 ++ rest))
    (by omega : (quoted field.1).length ≤ steps + 1)
  have hread := hvalue level steps rest hrest (by omega)
  have hcolon := skipSpace_cons (c := ':') (by decide) (' ' :: (chars level field.2 ++ rest))
  have hspace : skipSpace (' ' :: (chars level field.2 ++ rest)) = chars level field.2 ++ rest :=
    skipSpace_chars level field.2 rest
  rw [hchars, Json.field?]
  simp only [hkey, Option.bind_eq_bind, Option.bind_some, hcolon, after?_singleton, hspace,
    hread]
  rfl

theorem readsBack_object {fields : List (String × Json)}
    (hfields : ∀ field ∈ fields, ReadsBack field.2) : ReadsBack (.object fields) := by
  apply ReadsBack.of_succ
  intro level steps rest _ hsteps
  simp only [chars_object, List.length_cons, List.length_append] at hsteps
  have hcount := length_le_between level (fieldChars (level + 1)) fields
  have hfinds : ∀ field ∈ fields, Finds (Json.field? (value? steps) steps) '}'
      (fieldChars (level + 1) field) (field.1, tree field.2) := by
    intro field hmem
    have hlength := length_print_le_between level (fieldChars (level + 1)) hmem
    exact ⟨⟨'"', _, rfl, by decide, by decide⟩,
      fun rest hrest => (hfields field hmem).field? (level + 1) hrest (by omega)⟩
  have hread := sequence?_between (by decide) hfinds level rest
    (by omega : fields.length ≤ steps)
  rw [chars_object, List.cons_append, List.append_assoc, List.singleton_append, value?,
    if_neg (by decide), if_neg (by decide), if_pos rfl, hread, tree, fieldTrees_eq_map]
  rfl

/-- Every document is read back, by induction on how it is built. -/
theorem readsBack : (value : Json) → ReadsBack value
  | .number value => readsBack_number value
  | .string text => readsBack_string text
  | .array items => readsBack_array fun item _ => readsBack item
  | .object fields => readsBack_object fun field _ => readsBack field.2
termination_by value => sizeOf value
decreasing_by
  · rename_i hmem
    have hitem := List.sizeOf_lt_of_mem hmem
    simp only [array.sizeOf_spec]
    omega
  · rename_i hmem
    have hfield := List.sizeOf_lt_of_mem hmem
    cases field
    simp only [object.sizeOf_spec, Prod.mk.sizeOf_spec] at hfield ⊢
    omega

/-- What is rendered is read as the document that it was. -/
theorem parse?_render (value : Json) : parse? value.render = some value.tree := by
  have hread := readsBack value 0 ((chars 0 value).length + 1) [] (by simp [EndsNumber])
    (by omega)
  have hspace := skipSpace_chars 0 value []
  rw [List.append_nil] at hread hspace
  have hlength : value.render.length = (chars 0 value).length := String.length_ofList
  have hchars : value.render.toList = chars 0 value := String.toList_ofList
  rw [parse?, hlength, hchars, hspace, hread]
  rfl

/-- The reader is not made for what is rendered only, and no text that is not JSON is read. -/
example : (parse? "[ true,-1.5e3 , \"\\ud83d\\ude00\"]").isSome = true ∧
    ∀ text ∈ ["[1,]", "[1 2]", "01", "\"\\ud83d\"", "\"\n\"", "[] []"],
      (parse? text).isSome = false := by
  decide +kernel

end OpcodeTables.Json
