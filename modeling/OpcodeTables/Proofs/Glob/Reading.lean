import Mathlib
import OpcodeTables.Glob.Walk

/-!
# Reading patterns

`Reads` is a successful reading of a pattern as a relation, with one rule for each kind
of token.  Nothing in it depends on where in a longer pattern the text stands, and a
pattern without wildcards is read as its own text.
-/

namespace OpcodeTables.Glob

/-- A text is a pattern, given whether a component starts at its beginning. -/
inductive Reads : Bool → List Char → Pattern → Prop where
  | nil {atStart : Bool} : Reads atStart [] []
  | anyChar {atStart : Bool} {rest : List Char} {tokens : Pattern}
      (hrest : Reads false rest tokens) : Reads atStart ('?' :: rest) (.anyChar :: tokens)
  | anyDirectories : Reads true ['*', '*'] [.anyDirectories]
  | anyDirectoriesSlash {rest : List Char} {tokens : Pattern} (hrest : Reads true rest tokens) :
      Reads true ('*' :: '*' :: '/' :: rest) (.anyDirectories :: tokens)
  | anySequence {atStart : Bool} {rest : List Char} {tokens : Pattern}
      (hstar : ∀ behind, rest ≠ '*' :: behind) (hrest : Reads false rest tokens) :
      Reads atStart ('*' :: rest) (.anySequence :: tokens)
  | bracket {atStart : Bool} {text behind : List Char} {token : Token} {tokens : Pattern}
      (hbracket : Pattern.bracket? text = some (token, behind)) (hrest : Reads false behind tokens) :
      Reads atStart ('[' :: text) (token :: tokens)
  | char {atStart : Bool} {c : Char} {rest : List Char} {tokens : Pattern}
      (hmark : c ≠ '?') (hstar : c ≠ '*') (hbracket : c ≠ '[')
      (hrest : Reads (c == '/') rest tokens) : Reads atStart (c :: rest) (.char c :: tokens)

/-! ## The relation and the reader -/

section Reader

variable {position : Nat} {atStart : Bool} {text : List Char} {tokens : Pattern}

theorem map_eq_ok {ε α β : Type} {f : α → β} {result : Except ε α} {value : β}
    (hmap : result.map f = .ok value) : ∃ inner, result = .ok inner ∧ f inner = value := by
  cases result with
  | error error => cases hmap
  | ok inner => exact ⟨inner, rfl, Except.ok.inj hmap⟩

theorem reads_of_parseFrom (hparse : Pattern.parseFrom position atStart text = .ok tokens) :
    Reads atStart text tokens := by
  fun_induction Pattern.parseFrom position atStart text generalizing tokens with
  | case1 =>
      cases hparse
      exact .nil
  | case2 _ _ rest ih =>
      obtain ⟨inner, hinner, rfl⟩ := map_eq_ok hparse
      exact .anyChar (ih hinner)
  | case3 => cases hparse
  | case4 =>
      cases hparse
      exact .anyDirectories
  | case5 _ rest _ ih =>
      obtain ⟨inner, hinner, rfl⟩ := map_eq_ok hparse
      exact .anyDirectoriesSlash (ih hinner)
  | case6 => cases hparse
  | case7 => cases hparse
  | case8 _ _ rest _ hstar ih =>
      obtain ⟨inner, hinner, rfl⟩ := map_eq_ok hparse
      exact .anySequence hstar (ih hinner)
  | case9 => cases hparse
  | case10 _ _ text token behind hbracket _ ih =>
      obtain ⟨inner, hinner, rfl⟩ := map_eq_ok hparse
      exact .bracket hbracket (ih hinner)
  | case11 _ _ c rest hmark _ _ hstar hbracket ih =>
      obtain ⟨inner, hinner, rfl⟩ := map_eq_ok hparse
      exact .char hmark hstar hbracket (ih hinner)

theorem parseFrom_bracket {token : Token} {behind : List Char}
    (hbracket : Pattern.bracket? text = some (token, behind)) :
    Pattern.parseFrom position atStart ('[' :: text) =
      (Pattern.parseFrom (position + (text.length + 1 - behind.length)) false behind).map
        (token :: ·) := by
  rw [Pattern.parseFrom.eq_def]
  simp only
  split
  · next hnone => rw [hnone] at hbracket; cases hbracket
  · next other found hsome =>
      rw [hsome] at hbracket
      cases hbracket
      rfl

theorem parseFrom_char {c : Char} (hmark : c ≠ '?') (hstar : c ≠ '*') (hbracket : c ≠ '[')
    (rest : List Char) :
    Pattern.parseFrom position atStart (c :: rest) =
      (Pattern.parseFrom (position + 1) (c == '/') rest).map (.char c :: ·) := by
  rw [Pattern.parseFrom.eq_def]
  split <;> simp_all

theorem Reads.parseFrom (hreads : Reads atStart text tokens) (position : Nat) :
    Pattern.parseFrom position atStart text = .ok tokens := by
  induction hreads generalizing position with
  | nil => rw [Pattern.parseFrom]
  | anyChar _ ih =>
      rw [Pattern.parseFrom, ih]
      rfl
  | anyDirectories => simp [Pattern.parseFrom]
  | anyDirectoriesSlash _ ih =>
      rw [Pattern.parseFrom, if_pos rfl, ih]
      rfl
  | anySequence hstar _ ih =>
      rw [Pattern.parseFrom, ih]
      · rfl
      · rintro behind rfl
        exact hstar _ rfl
      · exact hstar
  | bracket hbracket _ ih =>
      rw [parseFrom_bracket hbracket, ih]
      rfl
  | char hmark hstar hbracket _ ih =>
      rw [parseFrom_char hmark hstar hbracket, ih]
      rfl

/-- The reader and the grammar of patterns agree. -/
theorem parse_eq_ok_iff {pattern : String} :
    Pattern.parse pattern = .ok tokens ↔ Reads true pattern.toList tokens :=
  ⟨reads_of_parseFrom, fun hreads => hreads.parseFrom 0⟩

end Reader

theorem token_of_bracket? {text behind : List Char} {token : Token}
    (hbracket : Pattern.bracket? text = some (token, behind)) :
    (∃ parts, token = .within parts) ∨ ∃ parts, token = .outside parts := by
  unfold Pattern.bracket? at hbracket
  split at hbracket
  · obtain ⟨⟨parts, rest⟩, -, hpair⟩ := Option.map_eq_some_iff.mp hbracket
    cases hpair
    exact .inr ⟨_, rfl⟩
  · obtain ⟨⟨parts, rest⟩, -, hpair⟩ := Option.map_eq_some_iff.mp hbracket
    cases hpair
    exact .inl ⟨_, rfl⟩

/-- A pattern without wildcards is its own text. -/
theorem Reads.eq_of_literal? {atStart : Bool} {text chars : List Char} {tokens : Pattern}
    (hreads : Reads atStart text tokens) (hliteral : tokens.literal? = some chars) :
    chars = text := by
  induction hreads generalizing chars with
  | nil => exact (Option.some.inj hliteral).symm
  | anyChar => cases hliteral
  | anyDirectories => cases hliteral
  | anyDirectoriesSlash => cases hliteral
  | anySequence => cases hliteral
  | bracket hbracket =>
      rcases token_of_bracket? hbracket with ⟨parts, rfl⟩ | ⟨parts, rfl⟩ <;> cases hliteral
  | char _ _ _ _ ih =>
      obtain ⟨inner, hinner, rfl⟩ := Option.map_eq_some_iff.mp hliteral
      rw [ih hinner]

/-- Only `**` is read as a recursive component. -/
theorem Reads.eq_of_anyDirectories {atStart : Bool} {text : List Char}
    (hreads : Reads atStart text [.anyDirectories]) (hslash : '/' ∉ text) : text = ['*', '*'] := by
  cases hreads with
  | anyDirectories => rfl
  | anyDirectoriesSlash => simp at hslash
  | bracket hbracket =>
      rcases token_of_bracket? hbracket with ⟨parts, hparts⟩ | ⟨parts, hparts⟩ <;> cases hparts

end OpcodeTables.Glob
