import OpcodeTables.Proofs.Annotated.Quiet
import OpcodeTables.Proofs.Annotated.Separation

/-!
# Sources made of blocks

Handler sources are written in blocks: some text in which no two slashes stand side by
side, and then an annotation whose declaration begins on a later line than its comment.
Such a source is read back without loss.  What a name holds does not matter, not even
the text of a whole annotation: the line ends before another quote can close the name,
and the scan goes on behind the block.
-/

namespace OpcodeTables

namespace Annotated

structure Block where
  filler : List Char
  occurrence : Occurrence
  slashesApart_filler : SlashesApart filler
  newline_mem_gap : '\n' ∈ occurrence.declaration.gap

namespace Block

def chars (block : Block) : List Char := block.filler ++ block.occurrence.chars

end Block

/-! ## The filler is passed over -/

variable {filler rest : List Char} {c : Char}

theorem SlashesApart.of_cons (hapart : SlashesApart (c :: filler)) : SlashesApart filler :=
  fun hslashes => hapart (hslashes.trans (List.suffix_cons c filler).isInfix)

/-- Its last slash together with the first one behind it opens nothing, since a slash
and no blank follows them. -/
theorem SlashesApart.atHead?_eq_none {occurrence : Occurrence}
    (hapart : SlashesApart (c :: filler)) :
    atHead? (c :: (filler ++ (occurrence.chars ++ rest))) = none := by
  cases hread : atHead? (c :: (filler ++ (occurrence.chars ++ rest))) with
  | none => rfl
  | some read =>
      obtain ⟨other, htext, -, -⟩ := Annotated.atHead?_eq_some hread
      rw [Occurrence.chars_append, Occurrence.chars_append] at htext
      obtain ⟨rfl, hbehind⟩ := List.cons.inj htext
      cases filler with
      | nil =>
          simp only [List.nil_append, List.cons.injEq, true_and] at hbehind
          have hblank := other.opening_blank
          rw [← hbehind.1] at hblank
          contradiction
      | cons next filler =>
          obtain rfl : next = '/' := (List.cons.inj hbehind).1
          exact absurd (List.prefix_append ['/', '/'] filler).isInfix hapart

/-- What stands between blocks is passed over. -/
theorem SlashesApart.scanChars_append (hapart : SlashesApart filler) (occurrence : Occurrence) :
    scanChars (filler ++ (occurrence.chars ++ rest)) = scanChars (occurrence.chars ++ rest) := by
  induction filler with
  | nil => rfl
  | cons c filler ih =>
      rw [List.cons_append, scanChars_cons_of_atHead? hapart.atHead?_eq_none, ih hapart.of_cons]

/-! ## A block is read as it was written -/

namespace Occurrence

theorem newline_mem_middle {occurrence : Occurrence}
    (hline : '\n' ∈ occurrence.declaration.gap) : '\n' ∈ occurrence.middle := by
  simp [middle, hline]

/-- The line of the comment ends before a quote that could close a longer name. -/
theorem length_name_le_of_newline {one other : Occurrence} {text : List Char}
    (hone : one.chars <+: text) (hother : other.chars <+: text) (hline : '\n' ∈ one.middle) :
    other.name.length ≤ one.name.length := by
  obtain ⟨rest, rfl⟩ := hone
  obtain ⟨behind, htext⟩ := hother
  rw [chars_eq_pieces, chars_eq_pieces] at htext
  simp only [List.append_assoc, List.cons_append, List.nil_append, List.cons.injEq,
    true_and] at htext
  rcases List.append_eq_append_iff.mp htext.2 with ⟨more, hname, -⟩ | ⟨more, hname, hmore⟩
  · rw [hname, List.length_append]
    exact Nat.le_add_right _ _
  · cases more with
    | nil => rw [hname, List.append_nil]
    | cons quote more =>
        -- a longer name would go on behind the quote, and the next quote is past the line
        have hinLine : '\n' ∉ more := fun hmem => other.name_inLine (by simp [hname, hmem])
        have hbehind := (List.cons.inj hmore).2
        rcases List.append_eq_append_iff.mp hbehind with
          ⟨reached, hmore, -⟩ | ⟨reached, hmiddle, hreached⟩
        · exact absurd (hmore ▸ List.mem_append_left reached hline) hinLine
        · cases reached with
          | nil =>
              rw [List.append_nil] at hmiddle
              exact absurd (hmiddle ▸ hline) hinLine
          | cons quote reached =>
              obtain ⟨rfl, -⟩ := List.cons.inj hreached
              exact absurd (by simp [hmiddle]) (one.notMem_middle (c := '\'') (by decide))

/-- A block is read as a whole, whatever stands behind it. -/
theorem atHead?_append {occurrence : Occurrence} (hline : '\n' ∈ occurrence.middle)
    (rest : List Char) :
    atHead? (occurrence.chars ++ rest) = some (occurrence.annotated, rest) := by
  have hstands : occurrence.chars <+: occurrence.chars ++ rest := List.prefix_append _ _
  cases hread : atHead? (occurrence.chars ++ rest) with
  | none => exact absurd hstands (atHead?_eq_none hread occurrence)
  | some read =>
      obtain ⟨found, behind⟩ := read
      obtain ⟨other, htext, rfl, hlongest⟩ := atHead?_eq_some hread
      have hother : other.chars <+: occurrence.chars ++ rest := ⟨behind, htext.symm⟩
      have hlength := Nat.le_antisymm (length_name_le_of_newline hstands hother hline)
        (hlongest occurrence hstands)
      obtain rfl := eq_of_length_name hother hstands hlength
      rw [List.append_cancel_left htext]

end Occurrence

theorem Block.scanChars_append (block : Block) (rest : List Char) :
    scanChars (block.chars ++ rest) = block.occurrence.annotated :: scanChars rest := by
  have hline := Occurrence.newline_mem_middle block.newline_mem_gap
  rw [chars, List.append_assoc, block.slashesApart_filler.scanChars_append,
    scanChars_of_atHead? (Occurrence.atHead?_append hline rest)]

end Annotated

end OpcodeTables
