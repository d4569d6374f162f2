import OpcodeTables.Proofs.Annotated.Leftmost

/-!
# Texts without annotations

Every annotation opens with two slashes, a blank and a quote.  A text is quiet if
nothing in it opens an annotation, and it is sealed if it stays quiet in front of
every quiet text.  Sealed texts may be joined in any way, so a long text is quiet if
it is made of pieces each of which is sealed for a reason of its own.
-/

namespace OpcodeTables.Annotated

open Text

/-- An annotation may begin here. -/
def Opens (text : List Char) : Prop :=
  ∃ blank rest, isBlank blank = true ∧ text = '/' :: '/' :: blank :: '\'' :: rest

/-- Nothing in the text opens an annotation. -/
def Quiet (text : List Char) : Prop :=
  ∀ tail, tail <:+ text → ¬ Opens tail

/-- The text opens nothing, whatever quiet text stands behind it. -/
def Sealed (text : List Char) : Prop :=
  ∀ behind, Quiet behind → Quiet (text ++ behind)

/-- No two slashes stand side by side. -/
def SlashesApart (text : List Char) : Prop :=
  ¬ ['/', '/'] <:+: text

instance (text : List Char) : Decidable (SlashesApart text) :=
  inferInstanceAs (Decidable (¬ _))

/-- A character that is no part of what opens an annotation. -/
def IsBarrier (c : Char) : Prop :=
  c ≠ '/' ∧ c ≠ '\'' ∧ isBlank c = false

instance (c : Char) : Decidable (IsBarrier c) :=
  inferInstanceAs (Decidable (_ ∧ _))

variable {text front behind rest : List Char} {c : Char}

/-! ## Quiet texts -/

theorem quiet_nil : Quiet [] := by
  intro tail htail hopens
  obtain ⟨blank, rest, -, rfl⟩ := hopens
  cases List.suffix_nil.mp htail

theorem Quiet.of_cons (hquiet : Quiet (c :: text)) : Quiet text :=
  fun tail htail => hquiet tail (htail.trans (List.suffix_cons c text))

theorem Quiet.cons (hquiet : Quiet text) (hopens : ¬ Opens (c :: text)) : Quiet (c :: text) := by
  intro tail htail
  rcases List.suffix_cons_iff.mp htail with rfl | hinside
  · exact hopens
  · exact hquiet tail hinside

theorem not_opens_of_ne_slash (hc : c ≠ '/') : ¬ Opens (c :: text) := by
  intro hopens
  obtain ⟨blank, rest, -, htext⟩ := hopens
  exact hc (List.cons.inj htext).1

/-- What opens an annotation is found among the characters of the text. -/
theorem quiet_of_slashesApart (hapart : SlashesApart text) : Quiet text := by
  intro tail htail hopens
  obtain ⟨blank, rest, -, rfl⟩ := hopens
  have hslashes : ['/', '/'] <+: '/' :: '/' :: blank :: '\'' :: rest :=
    List.prefix_append ['/', '/'] _
  exact hapart (hslashes.isInfix.trans htail.isInfix)

theorem quiet_of_quote_notMem (hquote : '\'' ∉ text) : Quiet text := by
  intro tail htail hopens
  obtain ⟨blank, rest, -, rfl⟩ := hopens
  exact hquote (htail.subset (by simp))

theorem quiet_of_not_blank (hblank : ∀ c ∈ text, isBlank c = false) : Quiet text := by
  intro tail htail hopens
  obtain ⟨blank, rest, hopening, rfl⟩ := hopens
  have hinside := hblank blank (htail.subset (by simp))
  rw [hopening] at hinside
  cases hinside

/-- Nothing opens across a barrier. -/
theorem Quiet.append_cons (hfront : Quiet front) (hc : IsBarrier c) (hbehind : Quiet behind) :
    Quiet (front ++ c :: behind) := by
  obtain ⟨hslash, hquote, hblank⟩ := hc
  induction front with
  | nil => exact hbehind.cons (not_opens_of_ne_slash hslash)
  | cons first front ih =>
      refine (ih hfront.of_cons).cons ?_
      intro hopens
      obtain ⟨blank, rest, hopening, htext⟩ := hopens
      match front, htext with
      | [], htext =>
          simp only [List.nil_append, List.cons.injEq] at htext
          exact hslash htext.2.1
      | [second], htext =>
          simp only [List.cons_append, List.nil_append, List.cons.injEq] at htext
          rw [htext.2.2.1, hopening] at hblank
          cases hblank
      | [second, third], htext =>
          simp only [List.cons_append, List.nil_append, List.cons.injEq] at htext
          exact hquote htext.2.2.2.1
      | second :: third :: fourth :: front, htext =>
          simp only [List.cons_append, List.cons.injEq] at htext
          obtain ⟨rfl, rfl, rfl, rfl, -⟩ := htext
          exact hfront _ List.suffix_rfl ⟨third, front, hopening, rfl⟩

/-- In a quiet text no annotation is found. -/
theorem Quiet.scanChars_eq_nil (hquiet : Quiet text) : scanChars text = [] := by
  induction text with
  | nil => exact scanChars_nil
  | cons c rest ih =>
      have hread : atHead? (c :: rest) = none := by
        cases hread : atHead? (c :: rest) with
        | none => rfl
        | some read =>
            obtain ⟨occurrence, htext, -, -⟩ := atHead?_eq_some hread
            have hopens : Opens (c :: rest) :=
              ⟨occurrence.opening, _, occurrence.opening_blank, htext⟩
            exact absurd hopens (hquiet _ List.suffix_rfl)
      rw [scanChars_cons_of_atHead? hread, ih hquiet.of_cons]

/-! ## Sealed texts -/

theorem Sealed.quiet (hsealed : Sealed text) : Quiet text := by
  have hquiet := hsealed [] quiet_nil
  rwa [List.append_nil] at hquiet

theorem Sealed.append (hfront : Sealed front) (hrest : Sealed rest) : Sealed (front ++ rest) := by
  intro behind hbehind
  rw [List.append_assoc]
  exact hfront _ (hrest behind hbehind)

theorem sealed_of_slash_notMem (hslash : '/' ∉ text) : Sealed text := by
  intro behind hbehind
  induction text with
  | nil => exact hbehind
  | cons c text ih =>
      rw [List.mem_cons, not_or] at hslash
      exact (ih hslash.2).cons (not_opens_of_ne_slash (Ne.symm hslash.1))

/-- A quiet text is sealed by a barrier. -/
theorem Quiet.sealed (hfront : Quiet front) (hc : IsBarrier c) (hrest : '/' ∉ rest) :
    Sealed (front ++ c :: rest) := by
  intro behind hbehind
  rw [List.append_assoc]
  exact hfront.append_cons hc (sealed_of_slash_notMem hrest behind hbehind)

theorem sealed_flatMap {α : Type} {pieces : List α} {chars : α → List Char}
    (hpieces : ∀ piece ∈ pieces, Sealed (chars piece)) : Sealed (pieces.flatMap chars) := by
  induction pieces with
  | nil => exact sealed_of_slash_notMem List.not_mem_nil
  | cons first rest ih =>
      rw [List.forall_mem_cons] at hpieces
      rw [List.flatMap_cons]
      exact hpieces.1.append (ih hpieces.2)

end OpcodeTables.Annotated
