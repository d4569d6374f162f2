import OpcodeTables.Annotated
import OpcodeTables.Proofs.Text.Words

/-!
# The grammar of annotations

An occurrence is an annotation as it is written: its pieces, each with what the
grammar asks of it, and the characters that they make up.  Nothing here reads a
text.

The grammar is ambiguous only in where the name ends.  Two occurrences at one
place whose names are equally long are the same occurrence; behind the name every
piece ends where the next one can begin.
-/

namespace OpcodeTables.Annotated

open Text

/-- The cycle count and the declaration of the handler, from the blank behind the
designator up to the opening parenthesis. -/
structure Declaration where
  separator : Char
  cycles : List Char
  gap : List Char
  handler : List Char
  padding : List Char
  separator_blank : Text.isBlank separator = true
  cycles_ne_nil : cycles ≠ []
  cycles_digits : ∀ c ∈ cycles, c.isDigit = true
  gap_ne_nil : gap ≠ []
  gap_blank : ∀ c ∈ gap, Text.isBlank c = true
  handler_ne_nil : handler ≠ []
  handler_chars : ∀ c ∈ handler, c ≠ '(' ∧ Text.isBlank c = false
  padding_blank : ∀ c ∈ padding, Text.isBlank c = true

def Declaration.chars (declaration : Declaration) : List Char :=
  declaration.separator :: (declaration.cycles ++ (declaration.gap ++
    ("pub fn ".toList ++ (declaration.handler ++ (declaration.padding ++ ['('])))))

structure Occurrence where
  opening : Char
  name : List Char
  closing : Char
  designator : Designator
  declaration : Declaration
  opening_blank : Text.isBlank opening = true
  name_inLine : '\n' ∉ name
  closing_blank : Text.isBlank closing = true

namespace Occurrence

def chars (occurrence : Occurrence) : List Char :=
  '/' :: '/' :: occurrence.opening :: '\'' :: (occurrence.name ++
    '\'' :: occurrence.closing :: (occurrence.designator.chars ++
      occurrence.declaration.chars))

/-- What an occurrence says, without its blanks. -/
def annotated (occurrence : Occurrence) : Annotated where
  name := String.ofList occurrence.name
  designator := occurrence.designator
  cycles := String.ofList occurrence.declaration.cycles
  handler := String.ofList occurrence.declaration.handler

/-- The occurrence stands in the text from the place `start` on. -/
def StandsAt (occurrence : Occurrence) (text : List Char) (start : Nat) : Prop :=
  occurrence.chars <+: text.drop start

end Occurrence

/-! ## Where a piece ends -/

theorem isBlank_eq_false_of_isDigit {c : Char} (hdigit : c.isDigit = true) :
    Text.isBlank c = false := by
  simp only [Char.isDigit, Bool.and_eq_true, decide_eq_true_eq] at hdigit
  have hrange : 48 ≤ c.toNat ∧ c.toNat ≤ 57 := hdigit
  rw [Text.isBlank, List.any_eq_false]
  intro range hmem
  have hapart : range.2 < 48 ∨ 57 < range.1 := by
    revert range
    decide
  simp only [Bool.and_eq_true, decide_eq_true_eq]
  omega

theorem isDigit_eq_false_of_isBlank {c : Char} (hblank : Text.isBlank c = true) :
    c.isDigit = false := by
  by_contra hdigit
  rw [isBlank_eq_false_of_isDigit (by simpa using hdigit)] at hblank
  contradiction

theorem isBlank_upper (digit : Nibble) : Text.isBlank digit.upper = false := by
  revert digit
  decide

theorem upper_injective {digit other : Nibble} (hupper : digit.upper = other.upper) :
    digit = other := by
  revert digit other
  decide

namespace Declaration

variable (declaration : Declaration) (rest : List Char)

theorem chars_append :
    declaration.chars ++ rest =
      declaration.separator :: (declaration.cycles ++ (declaration.gap ++
        ("pub fn ".toList ++ (declaration.handler ++ (declaration.padding ++ '(' :: rest))))) := by
  simp [chars]

theorem behind_cycles :
    (declaration.gap ++ rest).takeWhile Char.isDigit = [] :=
  takeWhile_append_eq_nil declaration.gap_ne_nil fun c hmem =>
    isDigit_eq_false_of_isBlank (declaration.gap_blank c hmem)

theorem behind_gap : ("pub fn ".toList ++ rest).takeWhile Text.isBlank = [] :=
  List.takeWhile_cons_of_neg (by decide)

theorem handler_isHandlerChar : ∀ c ∈ declaration.handler, isHandlerChar c = true := by
  intro c hmem
  obtain ⟨hparen, hblank⟩ := declaration.handler_chars c hmem
  simp [isHandlerChar, hparen, hblank]

theorem behind_handler :
    (declaration.padding ++ '(' :: rest).takeWhile isHandlerChar = [] := by
  cases hpadding : declaration.padding with
  | nil => exact List.takeWhile_cons_of_neg (by decide)
  | cons first padding =>
      have hblank : Text.isBlank first = true :=
        declaration.padding_blank first (by rw [hpadding]; exact List.mem_cons_self)
      exact List.takeWhile_cons_of_neg (by simp [isHandlerChar, hblank])

theorem behind_padding : ('(' :: rest).takeWhile Text.isBlank = [] :=
  List.takeWhile_cons_of_neg (by decide)

variable {declaration rest}

/-- A declaration can be read in one way only, and what stands behind it too. -/
theorem chars_append_inj {other : Declaration} {behind : List Char}
    (htext : declaration.chars ++ rest = other.chars ++ behind) :
    declaration = other ∧ rest = behind := by
  rw [chars_append, chars_append] at htext
  obtain ⟨hseparator, htext⟩ := List.cons.inj htext
  obtain ⟨hcycles, htext⟩ :=
    word_unique declaration.cycles_digits (declaration.behind_cycles _) other.cycles_digits
      (other.behind_cycles _) htext
  obtain ⟨hgap, htext⟩ :=
    word_unique declaration.gap_blank (behind_gap _) other.gap_blank (behind_gap _) htext
  have htext := List.append_cancel_left htext
  obtain ⟨hhandler, htext⟩ :=
    word_unique declaration.handler_isHandlerChar (declaration.behind_handler _)
      other.handler_isHandlerChar (other.behind_handler _) htext
  obtain ⟨hpadding, htext⟩ :=
    word_unique declaration.padding_blank (behind_padding _) other.padding_blank
      (behind_padding _) htext
  obtain ⟨-, hrest⟩ := List.cons.inj htext
  refine ⟨?_, hrest⟩
  cases declaration
  cases other
  simp_all

end Declaration

/-! ## Behind the name nothing is ambiguous -/

/-- The digits of a marked designator are no cycle count of a plain one: a blank
and a digit follow them, and behind a cycle count only blanks stand before the
declaration. -/
theorem cycles_ne_marked_digits (plain marked : Declaration) (high low : Nibble)
    (rest behind : List Char) :
    plain.chars ++ rest ≠ ' ' :: high.upper :: low.upper :: (marked.chars ++ behind) := by
  intro htext
  rw [Declaration.chars_append, Declaration.chars_append] at htext
  obtain ⟨-, htext⟩ := List.cons.inj htext
  have hmarked := isDigit_eq_false_of_isBlank marked.separator_blank
  obtain ⟨first, cycles, hcycles⟩ := List.exists_cons_of_ne_nil plain.cycles_ne_nil
  obtain ⟨blank, gap, hgap⟩ := List.exists_cons_of_ne_nil plain.gap_ne_nil
  obtain ⟨digit, digits, hdigits⟩ := List.exists_cons_of_ne_nil marked.cycles_ne_nil
  have hblank : Text.isBlank blank = true :=
    plain.gap_blank blank (by rw [hgap]; exact List.mem_cons_self)
  have hdigit : digit.isDigit = true :=
    marked.cycles_digits digit (by rw [hdigits]; exact List.mem_cons_self)
  rw [hcycles, hgap, hdigits] at htext
  cases cycles with
  | nil =>
      -- a cycle count of one digit: the gap would hold the second hexadecimal digit
      have hlow : blank = low.upper := by simp at htext; exact htext.2.1
      rw [hlow, isBlank_upper] at hblank
      contradiction
  | cons second cycles =>
      cases cycles with
      | nil =>
          -- two digits: behind one blank stands `p` or a blank, not a digit
          cases gap with
          | nil =>
              have hp : 'p' = digit := by simp at htext; exact htext.2.2.2.1
              rw [← hp] at hdigit
              contradiction
          | cons next gap =>
              have hnext : next = digit := by simp at htext; exact htext.2.2.2.1
              have hnextBlank : Text.isBlank next = true :=
                plain.gap_blank next (by simp [hgap])
              rw [hnext, isBlank_eq_false_of_isDigit hdigit] at hnextBlank
              contradiction
      | cons third cycles =>
          -- three digits: the third one would be the blank behind the designator
          have hthird : third = marked.separator := by simp at htext; exact htext.2.2.1
          have hthirdDigit : third.isDigit = true :=
            plain.cycles_digits third (by simp [hcycles])
          rw [hthird, hmarked] at hthirdDigit
          contradiction

/-- No text is both a plain and a marked designator with their declarations. -/
theorem plain_ne_marked (plain marked : Declaration) (high low first second : Nibble)
    (rest behind : List Char) :
    (Designator.plain high low).chars ++ (plain.chars ++ rest) ≠
      (Designator.marked first second).chars ++ (marked.chars ++ behind) := by
  intro htext
  have hbehind :
      plain.chars ++ rest =
        ' ' :: first.upper :: second.upper :: (marked.chars ++ behind) :=
    (List.cons.inj (List.cons.inj htext).2).2
  exact cycles_ne_marked_digits plain marked first second rest behind hbehind

/-- A designator and its declaration can be read in one way only. -/
theorem designated_inj {one other : Designator} {declaration next : Declaration}
    {rest behind : List Char}
    (htext : one.chars ++ (declaration.chars ++ rest) =
      other.chars ++ (next.chars ++ behind)) :
    one = other ∧ declaration = next ∧ rest = behind := by
  cases one with
  | plain high low =>
      cases other with
      | plain first second =>
          obtain ⟨hhigh, htext⟩ := List.cons.inj htext
          obtain ⟨hlow, htext⟩ := List.cons.inj htext
          rw [upper_injective hhigh, upper_injective hlow]
          exact ⟨rfl, Declaration.chars_append_inj htext⟩
      | marked first second => exact absurd htext (plain_ne_marked _ _ _ _ _ _ _ _)
  | marked high low =>
      cases other with
      | plain first second => exact absurd htext.symm (plain_ne_marked _ _ _ _ _ _ _ _)
      | marked first second =>
          have hmarker : ∀ one other : Nibble, (Designator.marked one other).chars =
              extendedMarker.toList ++ ' ' :: [one.upper, other.upper] := fun _ _ => rfl
          rw [hmarker, hmarker, List.append_assoc, List.append_assoc] at htext
          have htext := List.append_cancel_left htext
          obtain ⟨-, htext⟩ := List.cons.inj htext
          obtain ⟨hhigh, htext⟩ := List.cons.inj htext
          obtain ⟨hlow, htext⟩ := List.cons.inj htext
          rw [upper_injective hhigh, upper_injective hlow]
          exact ⟨rfl, Declaration.chars_append_inj htext⟩

namespace Occurrence

theorem chars_append (occurrence : Occurrence) (rest : List Char) :
    occurrence.chars ++ rest =
      '/' :: '/' :: occurrence.opening :: '\'' :: (occurrence.name ++
        '\'' :: occurrence.closing :: (occurrence.designator.chars ++
          (occurrence.declaration.chars ++ rest))) := by
  simp [chars]

theorem chars_ne_nil (occurrence : Occurrence) : occurrence.chars ≠ [] :=
  List.cons_ne_nil _ _

/-- The length of the name settles all else. -/
theorem eq_of_length_name {one other : Occurrence} {text : List Char}
    (hone : one.chars <+: text) (hother : other.chars <+: text)
    (hlength : one.name.length = other.name.length) : one = other := by
  obtain ⟨rest, rfl⟩ := hone
  obtain ⟨behind, htext⟩ := hother
  rw [chars_append, chars_append] at htext
  simp only [List.cons.injEq, true_and] at htext
  obtain ⟨hopening, htext⟩ := htext
  obtain ⟨hname, htext⟩ := List.append_inj htext hlength.symm
  simp only [List.cons.injEq, true_and] at htext
  obtain ⟨hclosing, htext⟩ := htext
  obtain ⟨hdesignator, hdeclaration, -⟩ := designated_inj htext
  cases one
  cases other
  simp_all

end Occurrence

end OpcodeTables.Annotated
