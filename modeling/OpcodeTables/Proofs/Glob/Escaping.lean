import OpcodeTables.Proofs.FileSystem.Pieces
import OpcodeTables.Proofs.Glob.Reading

/-!
# Escaped texts

An escaped text is a pattern that matches the text and nothing else.  Slashes are
left as they are, so the components of an escaped path are its escaped pieces.
-/

namespace OpcodeTables.Glob

def isSpecial (c : Char) : Bool := c = '?' ∨ c = '*' ∨ c = '[' ∨ c = ']'

/-- How a character is written so that it stands for itself. -/
def escapedChar (c : Char) : List Char := if isSpecial c then ['[', c, ']'] else [c]

/-- What the escaped character is read as. -/
def escapedToken (c : Char) : Token := if isSpecial c then .within [.single c] else .char c

theorem toList_escape (text : String) :
    (escape text).toList = text.toList.flatMap escapedChar := by
  rw [escape, String.toList_ofList]
  congr 1
  funext c
  simp [escapedChar, isSpecial]

/-! ## Reading -/

theorem bracket?_special {c : Char} (hspecial : isSpecial c = true) (rest : List Char) :
    Pattern.bracket? (c :: ']' :: rest) = some (.within [.single c], rest) := by
  have hc : c ≠ '!' := by
    rintro rfl
    cases hspecial
  unfold Pattern.bracket?
  split
  · next inner heq => exact absurd (List.cons.inj heq).1 hc
  · simp [Pattern.splitClass?, Pattern.classParts]

/-- Whether a component starts behind a text. -/
def startsBehind (atStart : Bool) : List Char → Bool
  | [] => atStart
  | c :: rest => startsBehind (c == '/') rest

theorem startsBehind_concat_slash (atStart : Bool) (text : List Char) :
    startsBehind atStart (text ++ ['/']) = true := by
  induction text generalizing atStart with
  | nil => rfl
  | cons c rest ih => exact ih _

theorem Reads.escapedChar {atStart : Bool} {c : Char} {rest : List Char} {tokens : Pattern}
    (hrest : Reads (c == '/') rest tokens) :
    Reads atStart (escapedChar c ++ rest) (escapedToken c :: tokens) := by
  unfold Glob.escapedChar escapedToken
  by_cases hspecial : isSpecial c = true
  · have hslash : (c == '/') = false := by
      rw [beq_eq_false_iff_ne]
      rintro rfl
      cases hspecial
    rw [hslash] at hrest
    rw [if_pos hspecial, if_pos hspecial]
    exact .bracket (bracket?_special hspecial rest) hrest
  · rw [if_neg hspecial, if_neg hspecial]
    simp only [isSpecial, decide_eq_true_eq, not_or] at hspecial
    exact .char hspecial.1 hspecial.2.1 hspecial.2.2.1 hrest

theorem Reads.escaped {atStart : Bool} {text rest : List Char} {tokens : Pattern}
    (hrest : Reads (startsBehind atStart text) rest tokens) :
    Reads atStart (text.flatMap Glob.escapedChar ++ rest) (text.map escapedToken ++ tokens) := by
  induction text generalizing atStart with
  | nil => exact hrest
  | cons c text ih =>
      rw [List.flatMap_cons, List.append_assoc]
      exact .escapedChar (ih hrest)

theorem parse_escape (text : String) :
    Pattern.parse (escape text) = .ok (text.toList.map escapedToken) := by
  have hread :
      Reads true (text.toList.flatMap escapedChar ++ []) (text.toList.map escapedToken ++ []) :=
    .escaped .nil
  rw [List.append_nil, List.append_nil] at hread
  rw [parse_eq_ok_iff, toList_escape]
  exact hread

/-! ## Matching -/

theorem accepts_escapedToken (c other : Char) : (escapedToken c).accepts other = (other == c) := by
  unfold escapedToken
  split_ifs <;> simp [Token.accepts, ClassPart.accepts]

theorem not_isSequence_escapedToken (c : Char) : (escapedToken c).isSequence = false := by
  unfold escapedToken
  split_ifs <;> rfl

/-- An escaped name matches itself only. -/
theorem accepts_escaped (text name : List Char) :
    Pattern.accepts (text.map escapedToken) name = true ↔ name = text := by
  induction text generalizing name with
  | nil => simp [Pattern.accepts_nil]
  | cons c rest ih =>
      have htoken := not_isSequence_escapedToken c
      rw [List.map_cons]
      cases name with
      | nil => simp [Pattern.accepts_token_nil htoken]
      | cons other name =>
          rw [Pattern.accepts_token_cons htoken, accepts_escapedToken, Bool.and_eq_true, beq_iff_eq,
            ih, List.cons.injEq]

theorem eq_of_literal?_escaped {text chars : List Char}
    (hliteral : Pattern.literal? (text.map escapedToken) = some chars) : chars = text := by
  induction text generalizing chars with
  | nil => exact (Option.some.inj hliteral).symm
  | cons c rest ih =>
      rw [List.map_cons, escapedToken] at hliteral
      split_ifs at hliteral
      · cases hliteral
      · obtain ⟨inner, hinner, rfl⟩ := Option.map_eq_some_iff.mp hliteral
        rw [ih hinner]

theorem not_isRecursive_escaped (text : List Char) :
    isRecursive (text.map escapedToken) = false := by
  rw [isRecursive, beq_eq_false_iff_ne]
  intro hrecursive
  have htoken := not_isSequence_escapedToken
  cases text with
  | nil => cases hrecursive
  | cons c rest =>
      have hfirst := (List.cons.inj hrecursive).1
      specialize htoken c
      rw [hfirst] at htoken
      cases htoken

/-! ## Pieces -/

theorem splitOn_append_of_notMem {front : List Char} (hslash : '/' ∉ front) (rest : List Char) :
    (front ++ rest).splitOn '/' = (rest.splitOn '/').modifyHead (front ++ ·) := by
  obtain ⟨first, others, hsplit⟩ := List.exists_cons_of_ne_nil (List.splitOn_ne_nil '/' rest)
  induction front with
  | nil => simp [hsplit]
  | cons c front ih =>
      rw [List.mem_cons, not_or] at hslash
      rw [List.cons_append, List.splitOn_cons_eq_if_modifyHead, ih hslash.2, hsplit]
      simp [Ne.symm hslash.1]

theorem slash_notMem_escapedChar {c : Char} (hslash : c ≠ '/') : '/' ∉ escapedChar c := by
  unfold escapedChar
  split_ifs <;> simp [hslash.symm]

theorem splitOn_escaped (text : List Char) :
    (text.flatMap escapedChar).splitOn '/' =
      (text.splitOn '/').map fun piece => piece.flatMap escapedChar := by
  induction text with
  | nil => rfl
  | cons c rest ih =>
      obtain ⟨first, others, hsplit⟩ := List.exists_cons_of_ne_nil (List.splitOn_ne_nil '/' rest)
      rw [List.flatMap_cons, List.splitOn_cons_eq_if_modifyHead]
      by_cases hslash : c = '/'
      · subst hslash
        rw [escapedChar, if_neg (by decide), List.singleton_append,
          List.splitOn_cons_eq_if_modifyHead, ih]
        simp
      · rw [splitOn_append_of_notMem (slash_notMem_escapedChar hslash), ih, hsplit]
        simp [hslash]

theorem pieces_escape (path : String) :
    Path.pieces (escape path) = (Path.pieces path).map escape := by
  rw [Path.pieces, toList_escape, splitOn_escaped, Path.pieces, List.map_map, List.map_map]
  congr 1
  funext piece
  apply String.toList_inj.mp
  simp [toList_escape]

/-! ## Names -/

theorem mem_escapedChar {c other : Char} (hmem : other ∈ escapedChar c) :
    other = c ∨ other = '[' ∨ other = ']' := by
  unfold escapedChar at hmem
  split_ifs at hmem
  · simp only [List.mem_cons, List.not_mem_nil, or_false] at hmem
    exact or_left_comm.mp hmem
  · exact .inl (List.mem_singleton.mp hmem)

theorem escape_injective : Function.Injective escape := by
  intro text other hsame
  have hparse := parse_escape text
  rw [hsame, parse_escape other] at hparse
  have htokens := Except.ok.inj hparse
  have haccepts := (accepts_escaped other.toList other.toList).mpr rfl
  rw [htokens, accepts_escaped] at haccepts
  exact (String.toList_inj.mp haccepts).symm

/-- The escaped text of a name is a name. -/
theorem isName_escape {name : String} (hname : Path.IsName name) : Path.IsName (escape name) := by
  have hchars : ∀ {c : Char}, c ∉ name.toList → c ≠ '[' → c ≠ ']' →
      c ∉ (escape name).toList := by
    intro c hc hopen hclose hmem
    rw [toList_escape] at hmem
    obtain ⟨other, hother, hinside⟩ := List.mem_flatMap.mp hmem
    rcases mem_escapedChar hinside with rfl | hbracket | hbracket
    · exact hc hother
    · exact hopen hbracket
    · exact hclose hbracket
  constructor
  · exact fun hempty => hname.ne_empty (escape_injective (hempty.trans (by decide)))
  · exact fun hdot => hname.ne_dot (escape_injective (hdot.trans (by decide)))
  · exact fun habove => hname.ne_above (escape_injective (habove.trans (by decide)))
  · exact hchars hname.no_slash (by decide) (by decide)
  · exact hchars hname.no_nul (by decide) (by decide)

theorem isPlain_escape {path : String} (hplain : Path.IsPlain path) :
    Path.IsPlain (escape path) := by
  intro piece hmem
  rw [pieces_escape] at hmem
  obtain ⟨name, hname, rfl⟩ := List.mem_map.mp hmem
  exact isName_escape (hplain name hname)

end OpcodeTables.Glob
