/-!
# Wildcard patterns

A pattern is a path with wildcards: `?` for any character, `*` for any sequence
of characters, `[abc]`, `[a-z]` and `[!abc]` for one character in or outside a
class, and `**`, as a whole component, for any sequence of directories.

`Pattern.parse` reads a pattern; `Pattern.accepts` matches a component of a
pattern with a name.
-/

namespace OpcodeTables

namespace Glob

inductive ClassPart where
  | single (c : Char)
  | range (least greatest : Char)
  deriving DecidableEq, Repr

inductive Token where
  | char (c : Char)
  | anyChar
  | anySequence
  /-- The wildcard `**`. -/
  | anyDirectories
  | within (parts : List ClassPart)
  | outside (parts : List ClassPart)
  deriving DecidableEq, Repr

inductive PatternFault where
  | tooManyStars
  | partialRecursion
  | unclosedClass
  deriving DecidableEq, Repr

def PatternFault.reason : PatternFault → String
  | .tooManyStars => "wildcards are either regular `*` or recursive `**`"
  | .partialRecursion => "recursive wildcards must form a single path component"
  | .unclosedClass => "invalid range pattern"

/-- A fault of a pattern, with the number of characters in front of it. -/
structure PatternError where
  position : Nat
  fault : PatternFault
  deriving DecidableEq, Repr

def PatternError.text (error : PatternError) : String :=
  "Pattern syntax error near position " ++ Nat.repr error.position ++ ": " ++ error.fault.reason

end Glob

abbrev Glob.Pattern := List Glob.Token

namespace Glob.Pattern

def classParts : List Char → List ClassPart
  | least :: '-' :: greatest :: rest => .range least greatest :: classParts rest
  | c :: rest => .single c :: classParts rest
  | [] => []

/-- Splits the text behind an opening bracket into the class and what follows
its closing bracket.  The first character belongs to the class whatever it is. -/
def splitClass? : List Char → Option (List Char × List Char)
  | [] => none
  | first :: rest =>
    match rest.dropWhile (· != ']') with
    | [] => none
    | _ :: behind => some (first :: rest.takeWhile (· != ']'), behind)

theorem splitClass?_length_lt {text parts behind : List Char}
    (h : splitClass? text = some (parts, behind)) : behind.length < text.length := by
  unfold splitClass? at h
  split at h
  case h_1 => cases h
  case h_2 first rest =>
    split at h
    case h_1 => cases h
    case h_2 bracket found hfound =>
      cases h
      have hlength := (List.dropWhile_suffix (p := (· != ']')) (l := rest)).length_le
      rw [hfound] at hlength
      simp only [List.length_cons] at hlength ⊢
      omega

/-- The class behind an opening bracket, as a token, and what follows its
closing bracket. -/
def bracket? : List Char → Option (Token × List Char)
  | '!' :: rest =>
    (splitClass? rest).map fun (parts, behind) => (.outside (classParts parts), behind)
  | text => (splitClass? text).map fun (parts, behind) => (.within (classParts parts), behind)

theorem bracket?_length_lt {text behind : List Char} {token : Token}
    (h : bracket? text = some (token, behind)) : behind.length < text.length := by
  unfold bracket? at h
  split at h
  case h_1 rest =>
    obtain ⟨split, hsplit, hpair⟩ := Option.map_eq_some_iff.mp h
    cases hpair
    have := splitClass?_length_lt hsplit
    simp only [List.length_cons]
    omega
  case h_2 =>
    obtain ⟨split, hsplit, hpair⟩ := Option.map_eq_some_iff.mp h
    cases hpair
    exact splitClass?_length_lt hsplit

/-- Reads the rest of a pattern, given the number of characters in front of it
and whether a component starts here. -/
def parseFrom (position : Nat) (atStart : Bool) (text : List Char) :
    Except PatternError Pattern :=
  match text with
  | [] => .ok []
  | '?' :: rest => (parseFrom (position + 1) false rest).map (.anyChar :: ·)
  | '*' :: '*' :: '*' :: _ => .error ⟨position + 2, .tooManyStars⟩
  | '*' :: '*' :: rest =>
    if atStart then
      match rest with
      | [] => .ok [.anyDirectories]
      | '/' :: rest => (parseFrom (position + 3) true rest).map (.anyDirectories :: ·)
      | _ => .error ⟨position + 2, .partialRecursion⟩
    else .error ⟨position - 1, .partialRecursion⟩
  | '*' :: rest => (parseFrom (position + 1) false rest).map (.anySequence :: ·)
  | '[' :: rest =>
    match h : bracket? rest with
    | none => .error ⟨position, .unclosedClass⟩
    | some (token, behind) =>
      have := bracket?_length_lt h
      (parseFrom (position + (text.length - behind.length)) false behind).map (token :: ·)
  | c :: rest => (parseFrom (position + 1) (c == '/') rest).map (.char c :: ·)
termination_by text.length

def parse (pattern : String) : Except PatternError Pattern :=
  parseFrom 0 true pattern.toList

/-- The text of a pattern without wildcards. -/
def literal? : Pattern → Option (List Char)
  | [] => some []
  | .char c :: rest => (literal? rest).map (c :: ·)
  | _ :: _ => none

end Glob.Pattern

namespace Glob

def ClassPart.accepts (c : Char) : ClassPart → Bool
  | .single other => c == other
  | .range least greatest => least ≤ c && c ≤ greatest

/-- Whether a token that stands for one character stands for `c`. -/
def Token.accepts (c : Char) : Token → Bool
  | .char other => c == other
  | .anyChar => true
  | .within parts => parts.any (·.accepts c)
  | .outside parts => !parts.any (·.accepts c)
  | .anySequence => false
  | .anyDirectories => false

def Token.isSequence : Token → Bool
  | .anySequence | .anyDirectories => true
  | _ => false

/-- Marks every place at or in front of a marked one. -/
def orBehind : List Bool → List Bool
  | [] => []
  | mark :: rest =>
    let behind := orBehind rest
    (mark || behind.headD false) :: behind

/-- For every end of a name, from the whole name to the empty end, whether a
component of a pattern matches it.  Each token takes one pass over the name, so
a row of wildcards costs no more than any other tokens. -/
def Pattern.matchedEnds : Pattern → List Char → List Bool
  | [], name => name.map (fun _ => false) ++ [true]
  | token :: rest, name =>
    let behind := matchedEnds rest name
    if token.isSequence then orBehind behind
    else List.zipWith (fun c mark => token.accepts c && mark) name behind.tail ++ [false]

/-- Whether a component of a pattern matches the whole of a name. -/
def Pattern.accepts (pattern : Pattern) (name : List Char) : Bool :=
  (pattern.matchedEnds name).headD false

/-- Writes a text such that no character in it is a wildcard. -/
def escape (text : String) : String :=
  String.ofList (text.toList.flatMap fun c =>
    if c = '?' ∨ c = '*' ∨ c = '[' ∨ c = ']' then ['[', c, ']'] else [c])

/-! ## What a component matches, by its first token -/

theorem length_orBehind (marks : List Bool) : (orBehind marks).length = marks.length := by
  induction marks with
  | nil => rfl
  | cons mark rest ih => simp [orBehind, ih]

theorem Pattern.length_matchedEnds (pattern : Pattern) (name : List Char) :
    (pattern.matchedEnds name).length = name.length + 1 := by
  induction pattern with
  | nil => simp [matchedEnds]
  | cons token rest ih =>
    simp only [matchedEnds]
    split
    case isTrue => rw [length_orBehind, ih]
    case isFalse => simp [ih]

/-- The marks of a name are those of its ends, the name itself being the first. -/
theorem Pattern.matchedEnds_cons (pattern : Pattern) (c : Char) (name : List Char) :
    pattern.matchedEnds (c :: name) = pattern.accepts (c :: name) :: pattern.matchedEnds name := by
  have htail : (pattern.matchedEnds (c :: name)).tail = pattern.matchedEnds name := by
    induction pattern generalizing c name with
    | nil => rfl
    | cons token rest ih =>
      have hends := length_matchedEnds rest name
      simp only [matchedEnds]
      split
      case isTrue =>
        rw [← ih c name]
        cases matchedEnds rest (c :: name) <;> rfl
      case isFalse =>
        rw [ih]
        cases hrest : matchedEnds rest name with
        | nil => simp [hrest] at hends
        | cons mark marks => simp
  have hlength := pattern.length_matchedEnds (c :: name)
  unfold accepts
  cases hends : pattern.matchedEnds (c :: name) with
  | nil => simp [hends] at hlength
  | cons mark marks =>
    rw [hends] at htail
    simpa using htail

theorem Pattern.accepts_nil (name : List Char) : Pattern.accepts [] name = name.isEmpty := by
  cases name <;> rfl

theorem Pattern.accepts_sequence_nil {token : Token} (h : token.isSequence = true)
    (rest : Pattern) : Pattern.accepts (token :: rest) [] = rest.accepts [] := by
  have hlength := length_matchedEnds rest []
  simp only [accepts, matchedEnds, h, if_true]
  match hends : rest.matchedEnds [], hlength with
  | [mark], _ => simp [orBehind]

/-- A sequence takes no character, or one and then goes on. -/
theorem Pattern.accepts_sequence_cons {token : Token} (h : token.isSequence = true)
    (rest : Pattern) (c : Char) (name : List Char) :
    Pattern.accepts (token :: rest) (c :: name) =
      (rest.accepts (c :: name) || Pattern.accepts (token :: rest) name) := by
  have hends : matchedEnds (token :: rest) (c :: name) =
      (rest.accepts (c :: name) || Pattern.accepts (token :: rest) name)
        :: matchedEnds (token :: rest) name := by
    simp only [matchedEnds, h, if_true]
    rw [matchedEnds_cons]
    simp only [orBehind, accepts, matchedEnds, h, if_true]
  rw [accepts, hends, List.headD_cons]

theorem Pattern.accepts_token_nil {token : Token} (h : token.isSequence = false)
    (rest : Pattern) : Pattern.accepts (token :: rest) [] = false := by
  simp [accepts, matchedEnds, h]

/-- Every other token takes one character. -/
theorem Pattern.accepts_token_cons {token : Token} (h : token.isSequence = false)
    (rest : Pattern) (c : Char) (name : List Char) :
    Pattern.accepts (token :: rest) (c :: name) = (token.accepts c && rest.accepts name) := by
  have hlength := length_matchedEnds rest name
  rw [accepts, matchedEnds, h, matchedEnds_cons]
  simp only [accepts]
  cases hends : rest.matchedEnds name with
  | nil => simp [hends] at hlength
  | cons mark marks => simp

end Glob

end OpcodeTables
