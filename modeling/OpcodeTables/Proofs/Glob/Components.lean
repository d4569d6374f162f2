import OpcodeTables.Proofs.Glob.Escaping
import OpcodeTables.Proofs.Glob.Stretching

/-!
# The components of a pattern below a directory

A walk takes its components from the pieces of the whole pattern.  The pieces of the
escaped directory come first, and none of them stretches.
-/

namespace OpcodeTables.Glob

/-- What a text is read as; nothing if it is no pattern. -/
def tokensOf (text : String) : Pattern := (Pattern.parse text).toOption.getD []

/-- The text can be read as a pattern. -/
def IsPattern (text : String) : Prop := Pattern.parse text = .ok (tokensOf text)

theorem isPattern_of_parse {text : String} {tokens : Pattern}
    (hparse : Pattern.parse text = .ok tokens) : IsPattern text := by
  rw [IsPattern, tokensOf, hparse]
  rfl

theorem tokensOf_of_parse {text : String} {tokens : Pattern}
    (hparse : Pattern.parse text = .ok tokens) : tokensOf text = tokens := by
  rw [tokensOf, hparse]
  rfl

theorem mapM_parse_eq_ok_iff {texts : List String} {components : List Pattern} :
    texts.mapM Pattern.parse = .ok components ↔
      (∀ text ∈ texts, IsPattern text) ∧ components = texts.map tokensOf := by
  induction texts generalizing components with
  | nil => simp [pure, Except.pure, eq_comm]
  | cons first rest ih =>
      rw [List.mapM_cons, Except.bind_eq_ok_iff, List.forall_mem_cons, List.map_cons]
      simp only [Except.bind_eq_ok_iff, ih]
      constructor
      · rintro ⟨tokens, hfirst, others, ⟨hrest, rfl⟩, hall⟩
        cases hall
        exact ⟨⟨isPattern_of_parse hfirst, hrest⟩, by rw [tokensOf_of_parse hfirst]⟩
      · rintro ⟨⟨hfirst, hrest⟩, rfl⟩
        exact ⟨_, hfirst, _, ⟨hrest, rfl⟩, rfl⟩

/-- The components of a pattern. -/
def componentsOf (pattern : String) : List Pattern := (componentTexts pattern).map tokensOf

theorem walk_eq_ok_iff {files : FileSystem} {pattern : String} {found : List Found} :
    walk files pattern = .ok found ↔
      IsPattern pattern ∧ (∀ text ∈ componentTexts pattern, IsPattern text) ∧
        found = continueFrom files (Path.endsInSlash pattern) (stepLimit (componentsOf pattern))
          (reach files (if Path.isAbsolute pattern then "/" else ".")) (componentsOf pattern) := by
  simp only [walk, Except.bind_eq_ok_iff, mapM_parse_eq_ok_iff]
  constructor
  · rintro ⟨tokens, htokens, components, ⟨hcomponents, rfl⟩, hfound⟩
    exact ⟨isPattern_of_parse htokens, hcomponents, (Except.ok.inj hfound).symm⟩
  · rintro ⟨hpattern, hcomponents, rfl⟩
    exact ⟨_, hpattern, _, ⟨hcomponents, rfl⟩, rfl⟩

/-! ## Where the pieces come from -/

theorem componentTexts_within (pattern : String) :
    componentTexts pattern <:+: Path.pieces pattern := by
  have hwithin : (if Path.isAbsolute pattern then (Path.pieces pattern).tail
      else Path.pieces pattern) <:+: Path.pieces pattern := by
    split_ifs
    · exact (List.tail_suffix _).isInfix
    · exact List.infix_refl _
  unfold componentTexts
  dsimp only
  generalize (if Path.isAbsolute pattern then (Path.pieces pattern).tail
    else Path.pieces pattern) = pieces at hwithin ⊢
  split
  · next hlast =>
      split_ifs with hone
      · obtain ⟨piece, rfl⟩ := List.length_eq_one_iff.mp hone
        cases hlast
        exact hwithin
      · exact (List.dropLast_prefix pieces).isInfix.trans hwithin
  · exact hwithin

theorem slashFree_componentsOf (pattern : String) : SlashFree (componentsOf pattern) := by
  intro component hmem chars hliteral
  obtain ⟨text, htext, rfl⟩ := List.mem_map.mp hmem
  have hslash := Path.slash_notMem_of_mem_pieces ((componentTexts_within pattern).subset htext)
  cases hparse : Pattern.parse text with
  | error error =>
      rw [tokensOf, hparse] at hliteral
      cases hliteral
      exact List.not_mem_nil
  | ok tokens =>
      rw [tokensOf_of_parse hparse] at hliteral
      rwa [(parse_eq_ok_iff.mp hparse).eq_of_literal? hliteral]

/-- The pieces of a directory stand in front of those of a pattern below it. -/
theorem exists_pieces_join (directory pattern : String) :
    ∃ front : List String,
      Path.pieces (Path.join (escape directory) pattern) =
        front.map escape ++ Path.pieces pattern := by
  unfold Path.join
  by_cases hwhole : (Path.isAbsolute pattern || escape directory == "") = true
  · rw [if_pos hwhole]
    exact ⟨[], rfl⟩
  · rw [if_neg hwhole]
    by_cases hslash : Path.endsInSlash (escape directory) = true
    · rw [if_pos hslash]
      obtain ⟨front, hfront⟩ := Path.exists_front_of_endsInSlash hslash
      have hpieces : (Path.pieces directory).map escape = Path.pieces front ++ [""] := by
        rw [← pieces_escape, hfront, Path.pieces_concat_slash]
      have hkept := congrArg List.dropLast hpieces
      rw [List.dropLast_concat, ← List.map_dropLast] at hkept
      rw [hfront, Path.pieces_append_slash, ← hkept]
      exact ⟨_, rfl⟩
    · rw [if_neg hslash, Path.pieces_append_slash, pieces_escape]
      exact ⟨_, rfl⟩

/-! ## The stretching parts of a pattern -/

/-- How many parts of a pattern stretch: the runs of `**`, and besides them the
wildcards that match the name `.`. -/
def stretchesIn (pattern : String) : Nat := stretches false ((Path.pieces pattern).map tokensOf)

theorem mayStay_escaped (text : List Char) : mayStay (text.map escapedToken) = false := by
  rw [mayStay, Bool.and_eq_false_iff]
  by_cases haccepts : Pattern.accepts (text.map escapedToken) ['.'] = true
  · obtain rfl := (accepts_escaped text ['.']).mp haccepts
    exact .inl (by decide)
  · exact .inr (by simpa using haccepts)

/-- No piece of an escaped path stretches. -/
theorem stretches_escaped (front : List String) (rest : List Pattern) :
    stretches false ((front.map escape).map tokensOf ++ rest) = stretches false rest := by
  induction front with
  | nil => rfl
  | cons first others ih =>
      rw [List.map_cons, List.map_cons, tokensOf_of_parse (parse_escape first), List.cons_append,
        stretches, if_neg (by simp [not_isRecursive_escaped]), ih]
      simp [mayStay_escaped]

theorem stretches_append_le (behindRecursion : Bool) (front rest : List Pattern) :
    stretches behindRecursion front ≤ stretches behindRecursion (front ++ rest) := by
  induction front generalizing behindRecursion with
  | nil => exact Nat.zero_le _
  | cons first others ih =>
      rw [List.cons_append, stretches, stretches]
      split_ifs <;> exact Nat.add_le_add_left (ih _) _

theorem stretches_le_of_suffix {suffix whole : List Pattern} (hsuffix : suffix <:+ whole) :
    stretches false suffix ≤ stretches false whole := by
  obtain ⟨front, rfl⟩ := hsuffix
  induction front with
  | nil => exact Nat.le_refl _
  | cons first others ih => exact ih.trans (stretches_tail_le first _)

/-- To put a directory in front of a pattern adds nothing that stretches. -/
theorem stretches_componentsOf_le (directory pattern : String) :
    stretches false (componentsOf (Path.join (escape directory) pattern)) ≤
      stretchesIn pattern := by
  obtain ⟨front, hpieces⟩ := exists_pieces_join directory pattern
  obtain ⟨before, behind, hwithin⟩ :=
    componentTexts_within (Path.join (escape directory) pattern)
  rw [hpieces] at hwithin
  have hwhole : stretches false
      ((before ++ componentTexts (Path.join (escape directory) pattern) ++ behind).map tokensOf) =
        stretchesIn pattern := by
    rw [hwithin, List.map_append, stretches_escaped, stretchesIn]
  rw [← hwhole, List.map_append, List.map_append, componentsOf, List.append_assoc]
  exact (stretches_append_le false _ _).trans (stretches_le_of_suffix (List.suffix_append _ _))

end OpcodeTables.Glob
