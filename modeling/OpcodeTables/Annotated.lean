import OpcodeTables.Opcode
import OpcodeTables.Space
import OpcodeTables.Text.Beginning
import OpcodeTables.Text.Blank

/-!
# Annotations in handler sources

An annotation is a comment directly above the declaration of a handler:

    // 'LD A,B' 78 4
    pub fn ld_a_b(cpu: &mut CPU) -> i32 {

It is `//`, one blank, the quoted name, one blank, the designator of the
opcode, one blank, the cycle count, at least one blank, `pub fn `, the handler
and, after any blanks, an opening parenthesis.  A name is any text within its
line, quotes included, so several closing quotes can fit; the longest name
wins.

`Annotated.scan` finds the annotations of a text from left to right.  After
one is found the search goes on behind its parenthesis.
-/

namespace OpcodeTables

/-- How an annotation names its opcode: two hexadecimal digits, or the marker,
a space and two hexadecimal digits. -/
inductive Designator where
  | plain (high low : Nibble)
  | marked (high low : Nibble)
  deriving DecidableEq, Repr

namespace Designator

/-- The designator as it is written. -/
def chars : Designator → List Char
  | .plain high low => [high.upper, low.upper]
  | .marked high low => extendedMarker.toList ++ [' ', high.upper, low.upper]

/-- The last two digits give the opcode. -/
def opcode : Designator → Opcode
  | .plain high low => Opcode.ofDigits high low
  | .marked high low => Opcode.ofDigits high low

/-- A designator whose text begins with the marker belongs to the extended
space. -/
def space (designator : Designator) : Space :=
  if extendedMarker.toList.isPrefixOf designator.chars then .extended else .primary

end Designator

/-- An annotated handler, as its comment and its declaration tell of it. -/
structure Annotated where
  name : String
  designator : Designator
  /-- The digits of the cycle count, as written. -/
  cycles : String
  handler : String
  deriving DecidableEq, Repr

namespace Annotated

def space (found : Annotated) : Space := found.designator.space

def opcode (found : Annotated) : Opcode := found.designator.opcode

/-! ## Reading the parts of an annotation

Each reader takes the text from some place on and gives, with what it read,
the text behind it.
-/

/-- What stands behind one blank. -/
def afterBlank? : List Char → Option (List Char)
  | [] => none
  | c :: rest => if Text.isBlank c then some rest else none

/-- The longest start of the text within a class of characters, if it is not
empty. -/
def someOf? (inClass : Char → Bool) (text : List Char) : Option (List Char × List Char) :=
  match text.takeWhile inClass with
  | [] => none
  | word => some (word, text.dropWhile inClass)

/-- Reads two hexadecimal digits, whose letters have to be capitals. -/
def digits? : List Char → Option (Nibble × Nibble × List Char)
  | high :: low :: rest =>
    match Nibble.ofUpper? high, Nibble.ofUpper? low with
    | some high, some low => some (high, low, rest)
    | _, _ => none
  | _ => none

/-- Reads a designator without a marker. -/
def plainDesignator? (text : List Char) : Option (Designator × List Char) := do
  let (high, low, rest) ← digits? text
  return (.plain high low, rest)

/-- Reads the marker, a space and the digits behind it. -/
def markedDesignator? (text : List Char) : Option (Designator × List Char) := do
  let rest ← Text.after? (extendedMarker.toList ++ [' ']) text
  let (high, low, rest) ← digits? rest
  return (.marked high low, rest)

/-- A handler's name ends at a blank or a parenthesis. -/
def isHandlerChar (c : Char) : Bool := c != '(' && !Text.isBlank c

/-- All that an annotation says but for the name. -/
structure Details where
  designator : Designator
  cycles : List Char
  handler : List Char

/-- Reads what stands behind the designator: the cycle count, and the declaration up to
the opening parenthesis. -/
def timingAndHandler? (designator : Designator) (text : List Char) :
    Option (Details × List Char) := do
  let rest ← afterBlank? text
  let (cycles, rest) ← someOf? Char.isDigit rest
  let (_, rest) ← someOf? Text.isBlank rest
  let rest ← Text.after? "pub fn ".toList rest
  let (handler, rest) ← someOf? isHandlerChar rest
  let rest ← Text.after? ['('] (rest.dropWhile Text.isBlank)
  return (⟨designator, cycles, handler⟩, rest)

/-- Reads a designator in one of its forms and all that stands behind it. -/
def designated? (designator? : List Char → Option (Designator × List Char))
    (text : List Char) : Option (Details × List Char) := do
  let (designator, rest) ← designator? text
  timingAndHandler? designator rest

/-- Reads all that stands behind the closing quote.  The marked form of a
designator is tried first. -/
def details? (text : List Char) : Option (Details × List Char) := do
  let text ← afterBlank? text
  match designated? markedDesignator? text with
  | some found => some found
  | none => designated? plainDesignator? text

/-- Reads a name and all behind it, from the place behind the opening quote.
A closing quote further on in the line is preferred to a nearer one. -/
def named? : List Char → Option (List Char × Details × List Char)
  | [] => none
  | c :: rest =>
    if c = '\n' then none
    else
      match named? rest with
      | some (name, found) => some (c :: name, found)
      | none => if c = '\'' then (details? rest).map fun found => ([], found) else none

/-- The annotation that starts at the head of the text, and the text behind
it. -/
def atHead? (text : List Char) : Option (Annotated × List Char) := do
  let rest ← Text.after? ['/', '/'] text
  let rest ← afterBlank? rest
  let rest ← Text.after? ['\''] rest
  let (name, details, rest) ← named? rest
  return (⟨String.ofList name, details.designator, String.ofList details.cycles,
    String.ofList details.handler⟩, rest)

/-! ## What a reader leaves is a shorter end of the text -/

theorem afterBlank?_eq_some {text rest : List Char} (h : afterBlank? text = some rest) :
    ∃ blank, Text.isBlank blank = true ∧ text = blank :: rest := by
  cases text with
  | nil => cases h
  | cons c tail =>
    simp only [afterBlank?] at h
    split at h
    case isTrue hblank => cases h; exact ⟨c, hblank, rfl⟩
    case isFalse => cases h

theorem someOf?_eq_some {inClass : Char → Bool} {text word rest : List Char}
    (h : someOf? inClass text = some (word, rest)) :
    text = word ++ rest ∧ word ≠ [] ∧ word = text.takeWhile inClass := by
  unfold someOf? at h
  split at h
  case h_1 => cases h
  case h_2 hne =>
    cases h
    exact ⟨List.takeWhile_append_dropWhile.symm, hne, rfl⟩

theorem digits?_suffix {text rest : List Char} {high low : Nibble}
    (h : digits? text = some (high, low, rest)) : rest <:+ text := by
  unfold digits? at h
  split at h
  case h_1 first second tail =>
    split at h
    case h_1 => cases h; exact ⟨[first, second], rfl⟩
    case h_2 => cases h
  case h_2 => cases h

theorem timingAndHandler?_suffix {designator : Designator} {text rest : List Char}
    {details : Details} (h : timingAndHandler? designator text = some (details, rest)) :
    rest <:+ text := by
  simp only [timingAndHandler?, Option.bind_eq_bind, Option.bind_eq_some_iff, Option.pure_def,
    Option.some.injEq, Prod.mk.injEq] at h
  obtain ⟨behindBlank, hblank, ⟨cycles, behindCycles⟩, hcycles, ⟨gap, behindGap⟩, hgap,
    behindWord, hword, ⟨handler, behindHandler⟩, hhandler, behindAll, hparen, -, rfl⟩ := h
  obtain ⟨blank, -, rfl⟩ := afterBlank?_eq_some hblank
  obtain ⟨rfl, -, -⟩ := someOf?_eq_some hcycles
  obtain ⟨rfl, -, -⟩ := someOf?_eq_some hgap
  obtain rfl := Text.after?_eq_some hword
  obtain ⟨rfl, -, -⟩ := someOf?_eq_some hhandler
  have hdrop : behindAll <:+ behindHandler :=
    (List.suffix_append ['('] behindAll).trans
      (Text.after?_eq_some hparen ▸ List.dropWhile_suffix _)
  refine hdrop.trans ?_
  exact ⟨blank :: (cycles ++ (gap ++ ("pub fn ".toList ++ handler))), by simp⟩

theorem markedDesignator?_suffix {text rest : List Char} {designator : Designator}
    (h : markedDesignator? text = some (designator, rest)) : rest <:+ text := by
  simp only [markedDesignator?, Option.bind_eq_bind, Option.bind_eq_some_iff, Option.pure_def,
    Option.some.injEq, Prod.mk.injEq] at h
  obtain ⟨behindMarker, hmarker, ⟨high, low, behindDigits⟩, hdigits, -, rfl⟩ := h
  obtain rfl := Text.after?_eq_some hmarker
  exact (digits?_suffix hdigits).trans (List.suffix_append _ _)

theorem plainDesignator?_suffix {text rest : List Char} {designator : Designator}
    (h : plainDesignator? text = some (designator, rest)) : rest <:+ text := by
  simp only [plainDesignator?, Option.bind_eq_bind, Option.bind_eq_some_iff, Option.pure_def,
    Option.some.injEq, Prod.mk.injEq] at h
  obtain ⟨⟨high, low, behindDigits⟩, hdigits, -, rfl⟩ := h
  exact digits?_suffix hdigits

theorem details?_suffix {text rest : List Char} {details : Details}
    (h : details? text = some (details, rest)) : rest <:+ text := by
  simp only [details?, Option.bind_eq_bind, Option.bind_eq_some_iff] at h
  obtain ⟨behindBlank, hblank, h⟩ := h
  obtain ⟨blank, -, rfl⟩ := afterBlank?_eq_some hblank
  refine List.IsSuffix.trans ?_ (List.suffix_cons blank behindBlank)
  split at h
  case h_1 found hfound =>
    cases h
    obtain ⟨⟨designator, behind⟩, hmarked, hrest⟩ := Option.bind_eq_some_iff.mp hfound
    exact (timingAndHandler?_suffix hrest).trans (markedDesignator?_suffix hmarked)
  case h_2 =>
    obtain ⟨⟨designator, behind⟩, hplain, hrest⟩ := Option.bind_eq_some_iff.mp h
    exact (timingAndHandler?_suffix hrest).trans (plainDesignator?_suffix hplain)

theorem named?_suffix {text name rest : List Char} {details : Details}
    (h : named? text = some (name, details, rest)) : rest <:+ text := by
  induction text generalizing name with
  | nil => cases h
  | cons c tail ih =>
    simp only [named?] at h
    split at h
    case isTrue => cases h
    case isFalse =>
      split at h
      case h_1 found hfound =>
        cases h
        exact (ih hfound).trans (List.suffix_cons c tail)
      case h_2 =>
        split at h
        case isTrue =>
          obtain ⟨found, hfound, hpair⟩ := Option.map_eq_some_iff.mp h
          cases hpair
          exact (details?_suffix hfound).trans (List.suffix_cons c tail)
        case isFalse => cases h

/-- An annotation takes up characters, so the scan comes to an end. -/
theorem length_lt_of_atHead? {text rest : List Char} {found : Annotated}
    (h : atHead? text = some (found, rest)) : rest.length < text.length := by
  simp only [atHead?, Option.bind_eq_bind, Option.bind_eq_some_iff, Option.pure_def,
    Option.some.injEq, Prod.mk.injEq] at h
  obtain ⟨behindSlashes, hslashes, behindBlank, hblank, behindQuote, hquote,
    ⟨name, details, behind⟩, hnamed, -, rfl⟩ := h
  obtain rfl := Text.after?_eq_some hslashes
  obtain ⟨blank, -, rfl⟩ := afterBlank?_eq_some hblank
  obtain rfl := Text.after?_eq_some hquote
  have := (named?_suffix hnamed).length_le
  simp
  omega

/-! ## Finding every annotation -/

/-- The annotations of a text, from left to right and without overlap. -/
def scanChars (text : List Char) : List Annotated :=
  match _h : atHead? text with
  | some (found, rest) => found :: scanChars rest
  | none =>
    match text with
    | [] => []
    | _ :: rest => scanChars rest
termination_by text.length
decreasing_by
  · exact length_lt_of_atHead? _h
  · simp

/-- The annotations of a text, in their order. -/
def scan (text : String) : List Annotated := scanChars text.toList

end Annotated

end OpcodeTables
