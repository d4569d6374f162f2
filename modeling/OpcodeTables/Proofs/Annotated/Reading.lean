import OpcodeTables.Proofs.Annotated.Grammar

/-!
# The readers keep to the grammar

Each reader accepts exactly the pieces of the grammar, followed by any text: what
it gives was written there, and what is written there it gives.  For the name,
where several readings are possible, the reader gives the longest one.
-/

namespace OpcodeTables.Annotated

open Text

/-! ## Single pieces -/

theorem after?_eq_some_iff {word text rest : List Char} :
    Text.after? word text = some rest ↔ text = word ++ rest := by
  constructor
  · exact Text.after?_eq_some
  · rintro rfl
    simp [Text.after?]

theorem afterBlank?_eq_some_iff {text rest : List Char} :
    afterBlank? text = some rest ↔
      ∃ blank, Text.isBlank blank = true ∧ text = blank :: rest := by
  constructor
  · exact afterBlank?_eq_some
  · rintro ⟨blank, hblank, rfl⟩
    simp [afterBlank?, hblank]

/-- A word is read up to the first character that cannot belong to it. -/
theorem someOf?_word {inClass : Char → Bool} {word rest : List Char}
    (hne : word ≠ []) (hword : ∀ c ∈ word, inClass c = true)
    (hrest : rest.takeWhile inClass = []) :
    someOf? inClass (word ++ rest) = some (word, rest) := by
  unfold someOf?
  rw [takeWhile_word hword hrest, dropWhile_word hword hrest]
  split
  · contradiction
  · rfl

theorem someOf?_inClass {inClass : Char → Bool} {text word rest : List Char}
    (hread : someOf? inClass text = some (word, rest)) :
    ∀ c ∈ word, inClass c = true := by
  obtain ⟨-, -, hword⟩ := someOf?_eq_some hread
  intro c hmem
  rw [hword] at hmem
  exact List.mem_takeWhile_imp hmem

theorem ofUpper?_eq_some_iff {c : Char} {digit : Nibble} :
    Nibble.ofUpper? c = some digit ↔ c = digit.upper := by
  constructor
  · intro hread
    have hupper := List.find?_some hread
    simpa using (of_decide_eq_true hupper).symm
  · rintro rfl
    revert digit
    decide

theorem digits?_eq_some_iff {text rest : List Char} {high low : Nibble} :
    digits? text = some (high, low, rest) ↔ text = high.upper :: low.upper :: rest := by
  constructor
  · intro hread
    unfold digits? at hread
    split at hread
    next first second tail =>
      split at hread
      next hhigh hlow =>
        cases hread
        rw [ofUpper?_eq_some_iff] at hhigh hlow
        rw [hhigh, hlow]
      next => contradiction
    next => contradiction
  · rintro rfl
    simp only [digits?]
    rw [ofUpper?_eq_some_iff.mpr rfl, ofUpper?_eq_some_iff.mpr rfl]

/-- The reader and the grammar agree on plain designators. -/
theorem plainDesignator?_eq_some_iff {text rest : List Char} {designator : Designator} :
    plainDesignator? text = some (designator, rest) ↔
      ∃ high low, designator = .plain high low ∧ text = designator.chars ++ rest := by
  simp only [plainDesignator?, Option.bind_eq_bind, Option.bind_eq_some_iff, Option.pure_def,
    Option.some.injEq, Prod.mk.injEq]
  constructor
  · rintro ⟨⟨high, low, behind⟩, hdigits, rfl, rfl⟩
    exact ⟨high, low, rfl, digits?_eq_some_iff.mp hdigits⟩
  · rintro ⟨high, low, rfl, htext⟩
    exact ⟨⟨high, low, rest⟩, digits?_eq_some_iff.mpr htext, rfl, rfl⟩

theorem markedDesignator?_eq_some_iff {text rest : List Char} {designator : Designator} :
    markedDesignator? text = some (designator, rest) ↔
      ∃ high low, designator = .marked high low ∧ text = designator.chars ++ rest := by
  simp only [markedDesignator?, Option.bind_eq_bind, Option.bind_eq_some_iff, Option.pure_def,
    Option.some.injEq, Prod.mk.injEq, after?_eq_some_iff]
  constructor
  · rintro ⟨behindMarker, rfl, ⟨high, low, behind⟩, hdigits, rfl, rfl⟩
    rw [digits?_eq_some_iff] at hdigits
    exact ⟨high, low, rfl, by simp [hdigits, Designator.chars]⟩
  · rintro ⟨high, low, rfl, rfl⟩
    exact ⟨high.upper :: low.upper :: rest, by simp [Designator.chars], ⟨high, low, rest⟩,
      digits?_eq_some_iff.mpr rfl, rfl, rfl⟩

/-! ## The declaration -/

/-- What a declaration says together with the designator in front of it. -/
def Declaration.details (declaration : Declaration) (designator : Designator) : Details where
  designator := designator
  cycles := declaration.cycles
  handler := declaration.handler

/-- What the grammar allows behind a designator is read. -/
theorem timingAndHandler?_declaration (designator : Designator) (declaration : Declaration)
    (rest : List Char) :
    timingAndHandler? designator (declaration.chars ++ rest) =
      some (declaration.details designator, rest) := by
  have hcycles := someOf?_word declaration.cycles_ne_nil declaration.cycles_digits
    (declaration.behind_cycles ("pub fn ".toList ++ (declaration.handler ++
      (declaration.padding ++ '(' :: rest))))
  have hgap := someOf?_word declaration.gap_ne_nil declaration.gap_blank
    (Declaration.behind_gap (declaration.handler ++ (declaration.padding ++ '(' :: rest)))
  have hhandler := someOf?_word declaration.handler_ne_nil declaration.handler_isHandlerChar
    (declaration.behind_handler rest)
  have hpadding : (declaration.padding ++ '(' :: rest).dropWhile Text.isBlank = '(' :: rest :=
    dropWhile_word declaration.padding_blank (Declaration.behind_padding rest)
  have hword := after?_eq_some_iff.mpr
    (rfl : "pub fn ".toList ++ (declaration.handler ++ (declaration.padding ++ '(' :: rest)) = _)
  have hparen : Text.after? ['('] ('(' :: rest) = some rest := after?_eq_some_iff.mpr rfl
  rw [Declaration.chars_append]
  simp only [timingAndHandler?, afterBlank?, declaration.separator_blank, if_true,
    Option.bind_eq_bind, Option.bind_some, hcycles, hgap, hword, hhandler, hpadding, hparen]
  rfl

/-- What is read behind a designator is allowed by the grammar. -/
theorem timingAndHandler?_eq_some {designator : Designator} {text rest : List Char}
    {details : Details} (hread : timingAndHandler? designator text = some (details, rest)) :
    ∃ declaration : Declaration,
      details = declaration.details designator ∧ text = declaration.chars ++ rest := by
  simp only [timingAndHandler?, Option.bind_eq_bind, Option.bind_eq_some_iff, Option.pure_def,
    Option.some.injEq, Prod.mk.injEq] at hread
  obtain ⟨behindBlank, hblank, ⟨cycles, behindCycles⟩, hcycles, ⟨gap, behindGap⟩, hgap,
    behindWord, hword, ⟨handler, behindHandler⟩, hhandler, behindAll, hparen, rfl, rfl⟩ := hread
  obtain ⟨blank, hisBlank, rfl⟩ := afterBlank?_eq_some hblank
  obtain ⟨rfl, hcyclesNe, -⟩ := someOf?_eq_some hcycles
  obtain ⟨rfl, hgapNe, -⟩ := someOf?_eq_some hgap
  obtain rfl := Text.after?_eq_some hword
  obtain ⟨rfl, hhandlerNe, -⟩ := someOf?_eq_some hhandler
  have hpadding : behindHandler.takeWhile Text.isBlank ++ '(' :: behindAll = behindHandler := by
    have hbehind := Text.after?_eq_some hparen
    rw [← List.singleton_append, ← hbehind]
    exact List.takeWhile_append_dropWhile
  let declaration : Declaration := {
    separator := blank
    cycles := cycles
    gap := gap
    handler := handler
    padding := behindHandler.takeWhile Text.isBlank
    separator_blank := hisBlank
    cycles_ne_nil := hcyclesNe
    cycles_digits := someOf?_inClass hcycles
    gap_ne_nil := hgapNe
    gap_blank := someOf?_inClass hgap
    handler_ne_nil := hhandlerNe
    handler_chars := fun c hmem => by
      simpa [isHandlerChar] using someOf?_inClass hhandler c hmem
    padding_blank := fun c hmem => List.mem_takeWhile_imp hmem }
  refine ⟨declaration, rfl, ?_⟩
  rw [Declaration.chars_append]
  simp only [declaration, hpadding]

theorem designated?_eq_some_iff {designator? : List Char → Option (Designator × List Char)}
    {text rest : List Char} {details : Details} :
    designated? designator? text = some (details, rest) ↔
      ∃ designator declaration,
        designator? text = some (designator, Declaration.chars declaration ++ rest) ∧
          details = declaration.details designator := by
  simp only [designated?, Option.bind_eq_bind, Option.bind_eq_some_iff]
  constructor
  · rintro ⟨⟨designator, behind⟩, hdesignator, hbehind⟩
    obtain ⟨declaration, rfl, rfl⟩ := timingAndHandler?_eq_some hbehind
    exact ⟨designator, declaration, hdesignator, rfl⟩
  · rintro ⟨designator, declaration, hdesignator, rfl⟩
    exact ⟨_, hdesignator, timingAndHandler?_declaration designator declaration rest⟩

/-- The marked form is tried first, but no text can be read in both forms. -/
theorem details?_eq_some_iff {text rest : List Char} {details : Details} :
    details? text = some (details, rest) ↔
      ∃ closing designator declaration,
        Text.isBlank closing = true ∧
          text = closing :: (Designator.chars designator ++
            (Declaration.chars declaration ++ rest)) ∧
          details = declaration.details designator := by
  simp only [details?, Option.bind_eq_bind, Option.bind_eq_some_iff, afterBlank?_eq_some_iff]
  constructor
  · rintro ⟨behind, ⟨closing, hclosing, rfl⟩, hread⟩
    split at hread
    next found hmarked =>
      cases hread
      obtain ⟨designator, declaration, hdesignator, rfl⟩ := designated?_eq_some_iff.mp hmarked
      obtain ⟨high, low, -, rfl⟩ := markedDesignator?_eq_some_iff.mp hdesignator
      exact ⟨closing, designator, declaration, hclosing, rfl, rfl⟩
    next =>
      obtain ⟨designator, declaration, hdesignator, rfl⟩ := designated?_eq_some_iff.mp hread
      obtain ⟨high, low, -, rfl⟩ := plainDesignator?_eq_some_iff.mp hdesignator
      exact ⟨closing, designator, declaration, hclosing, rfl, rfl⟩
  · rintro ⟨closing, designator, declaration, hclosing, rfl, rfl⟩
    refine ⟨_, ⟨closing, hclosing, rfl⟩, ?_⟩
    split
    next found hmarked =>
      obtain ⟨details, behind⟩ := found
      obtain ⟨other, next, hother, rfl⟩ := designated?_eq_some_iff.mp hmarked
      obtain ⟨high, low, -, htext⟩ := markedDesignator?_eq_some_iff.mp hother
      -- read as marked: the text can be written in one way only
      obtain ⟨rfl, rfl, rfl⟩ := designated_inj htext
      rfl
    next hnone =>
      cases designator with
      | plain high low =>
          apply designated?_eq_some_iff.mpr
          exact ⟨.plain high low, declaration,
            plainDesignator?_eq_some_iff.mpr ⟨high, low, rfl, rfl⟩, rfl⟩
      | marked high low =>
          -- the reader would have taken it as marked
          have hmarked : designated? markedDesignator?
              ((Designator.marked high low).chars ++ (declaration.chars ++ rest)) =
                some (declaration.details (.marked high low), rest) :=
            designated?_eq_some_iff.mpr ⟨.marked high low, declaration,
              markedDesignator?_eq_some_iff.mpr ⟨high, low, rfl, rfl⟩, rfl⟩
          rw [hmarked] at hnone
          contradiction

/-! ## The name -/

/-- The text can be read as a name, its closing quote and all that belongs
behind it. -/
def Named (text name : List Char) (details : Details) (rest : List Char) : Prop :=
  '\n' ∉ name ∧ ∃ behind, text = name ++ '\'' :: behind ∧ details? behind = some (details, rest)

theorem Named.cons {c : Char} {text name rest : List Char} {details : Details}
    (hnamed : Named text name details rest) (hc : c ≠ '\n') :
    Named (c :: text) (c :: name) details rest := by
  obtain ⟨hline, behind, rfl, hread⟩ := hnamed
  refine ⟨?_, behind, rfl, hread⟩
  simp [hline, Ne.symm hc]

/-- A reading either closes the name at once or takes the first character into
it. -/
theorem Named.cases_cons {c : Char} {text name rest : List Char} {details : Details}
    (hnamed : Named (c :: text) name details rest) :
    (name = [] ∧ c = '\'' ∧ details? text = some (details, rest)) ∨
      ∃ tail, name = c :: tail ∧ c ≠ '\n' ∧ Named text tail details rest := by
  obtain ⟨hline, behind, htext, hread⟩ := hnamed
  cases name with
  | nil =>
      obtain ⟨rfl, rfl⟩ := List.cons.inj htext
      exact .inl ⟨rfl, rfl, hread⟩
  | cons first tail =>
      obtain ⟨rfl, rfl⟩ := List.cons.inj htext
      rw [List.mem_cons, not_or] at hline
      exact .inr ⟨tail, rfl, Ne.symm hline.1, hline.2, behind, rfl, hread⟩

theorem not_named_nil {name rest : List Char} {details : Details} :
    ¬ Named [] name details rest := by
  rintro ⟨-, behind, htext, -⟩
  simp at htext

/-- What is read has a name, a closing quote and all that belongs behind it. -/
theorem named?_eq_some {text name rest : List Char} {details : Details}
    (hread : named? text = some (name, details, rest)) : Named text name details rest := by
  induction text generalizing name with
  | nil => contradiction
  | cons c text ih =>
      simp only [named?] at hread
      split at hread
      next => contradiction
      next hc =>
        split at hread
        next tail found hfound =>
          cases hread
          exact (ih hfound).cons hc
        next =>
          split at hread
          next hquote =>
            obtain ⟨found, hdetails, hpair⟩ := Option.map_eq_some_iff.mp hread
            cases hpair
            exact ⟨List.not_mem_nil, text, by rw [hquote]; rfl, hdetails⟩
          next => contradiction

/-- The reader gives a reading wherever there is one, and none is longer. -/
theorem named?_longest {text name rest : List Char} {details : Details}
    (hnamed : Named text name details rest) :
    ∃ longest found, named? text = some (longest, found) ∧ name.length ≤ longest.length := by
  induction text generalizing name with
  | nil => exact absurd hnamed not_named_nil
  | cons c text ih =>
      rcases hnamed.cases_cons with ⟨rfl, rfl, hread⟩ | ⟨tail, rfl, hc, htail⟩
      · cases hlater : named? text with
        | none => exact ⟨[], (details, rest), by simp [named?, hlater, hread], Nat.le_refl _⟩
        | some later =>
            obtain ⟨longer, found⟩ := later
            exact ⟨'\'' :: longer, found, by simp [named?, hlater], Nat.zero_le _⟩
      · obtain ⟨longest, found, hlongest, hle⟩ := ih htail
        exact ⟨c :: longest, found, by simp [named?, hc, hlongest], Nat.succ_le_succ hle⟩

/-! ## A whole annotation -/

theorem Occurrence.named (occurrence : Occurrence) (rest : List Char) :
    Named (occurrence.name ++ '\'' :: occurrence.closing :: (occurrence.designator.chars ++
        (occurrence.declaration.chars ++ rest))) occurrence.name
      (occurrence.declaration.details occurrence.designator) rest :=
  ⟨occurrence.name_inLine, _, rfl, details?_eq_some_iff.mpr
    ⟨_, _, _, occurrence.closing_blank, rfl, rfl⟩⟩

/-- Where an occurrence stands at the head of a text, what the reader gives is
decided behind the opening quote. -/
theorem atHead?_occurrence (occurrence : Occurrence) (rest : List Char) :
    atHead? (occurrence.chars ++ rest) =
      (named? (occurrence.name ++ '\'' :: occurrence.closing :: (occurrence.designator.chars ++
        (occurrence.declaration.chars ++ rest)))).map fun found =>
          (⟨String.ofList found.1, found.2.1.designator, String.ofList found.2.1.cycles,
            String.ofList found.2.1.handler⟩, found.2.2) := by
  have hslashes : ∀ text, Text.after? ['/', '/'] ('/' :: '/' :: text) = some text :=
    fun text => after?_eq_some_iff.mpr rfl
  have hquote : ∀ text, Text.after? ['\''] ('\'' :: text) = some text :=
    fun text => after?_eq_some_iff.mpr rfl
  rw [Occurrence.chars_append]
  simp only [atHead?, hslashes, afterBlank?, occurrence.opening_blank, if_true, hquote,
    Option.bind_eq_bind, Option.bind_some]
  cases named? _ <;> rfl

/-- An annotation that is read is an occurrence, and none with a longer name stands at
the same place. -/
theorem atHead?_eq_some {text rest : List Char} {found : Annotated}
    (hread : atHead? text = some (found, rest)) :
    ∃ occurrence : Occurrence, text = occurrence.chars ++ rest ∧
      found = occurrence.annotated ∧
      ∀ other : Occurrence, other.chars <+: text →
        other.name.length ≤ occurrence.name.length := by
  simp only [atHead?, Option.bind_eq_bind, Option.bind_eq_some_iff, Option.pure_def,
    Option.some.injEq, Prod.mk.injEq, after?_eq_some_iff, afterBlank?_eq_some_iff] at hread
  obtain ⟨behindSlashes, rfl, behindBlank, ⟨opening, hopening, rfl⟩, behindQuote, rfl,
    ⟨name, details, behind⟩, hnamed, rfl, rfl⟩ := hread
  obtain ⟨hline, behindName, rfl, hdetails⟩ := named?_eq_some hnamed
  obtain ⟨closing, designator, declaration, hclosing, rfl, rfl⟩ :=
    details?_eq_some_iff.mp hdetails
  let occurrence : Occurrence := {
    opening := opening
    name := name
    closing := closing
    designator := designator
    declaration := declaration
    opening_blank := hopening
    name_inLine := hline
    closing_blank := hclosing }
  refine ⟨occurrence, (occurrence.chars_append behind).symm, rfl, ?_⟩
  rintro other ⟨rest, htext⟩
  obtain ⟨longest, found, hlongest, hle⟩ := named?_longest (other.named rest)
  have hbehind : other.name ++ '\'' :: other.closing :: (other.designator.chars ++
      (other.declaration.chars ++ rest)) = name ++ '\'' :: closing ::
        (designator.chars ++ (declaration.chars ++ behind)) := by
    rw [Occurrence.chars_append] at htext
    simp only [List.cons_append, List.nil_append, List.cons.injEq, true_and] at htext
    exact htext.2
  rw [hbehind, hnamed] at hlongest
  cases hlongest
  exact hle

/-- Where nothing is read no occurrence stands. -/
theorem atHead?_eq_none {text : List Char} (hread : atHead? text = none)
    (occurrence : Occurrence) : ¬ occurrence.chars <+: text := by
  rintro ⟨rest, rfl⟩
  obtain ⟨longest, found, hlongest, -⟩ := named?_longest (occurrence.named rest)
  rw [atHead?_occurrence, hlongest] at hread
  contradiction

end OpcodeTables.Annotated
