import Mathlib.Data.List.Basic

/-!
# Lines and words of a text

A text is cut into lines at every newline and into words at every run of spaces.
Both cuts go through concatenation at a separator, and all else about them
follows from that.
-/

namespace OpcodeTables.Text

theorem notMem_of_mem_splitOn {separator : Char} {text piece : List Char}
    (hmem : piece ∈ text.splitOn separator) : separator ∉ piece := by
  induction text generalizing piece with
  | nil =>
      rw [List.splitOn_nil, List.mem_singleton] at hmem
      exact hmem ▸ List.not_mem_nil
  | cons c rest ih =>
      rw [List.splitOn_cons_eq_if_modifyHead] at hmem
      by_cases hc : (c == separator) = true
      · rw [if_pos hc, List.mem_cons] at hmem
        rcases hmem with rfl | hrest
        · exact List.not_mem_nil
        · exact ih hrest
      · rw [if_neg hc] at hmem
        cases hsplit : rest.splitOn separator with
        | nil => exact absurd hsplit (List.splitOn_ne_nil _ _)
        | cons first others =>
            rw [hsplit] at hmem ih
            rcases List.mem_cons.mp hmem with rfl | hother
            · have hfirst := ih List.mem_cons_self
              rw [List.mem_cons, not_or]
              exact ⟨fun hsame => hc (by simp [hsame]), hfirst⟩
            · exact ih (List.mem_cons_of_mem first hother)

theorem exists_mem_splitOn {separator c : Char} {text : List Char} (hmem : c ∈ text)
    (hne : c ≠ separator) : ∃ piece ∈ text.splitOn separator, c ∈ piece := by
  induction text with
  | nil => cases hmem
  | cons first rest ih =>
      obtain ⟨head, others, hsplit⟩ :=
        List.exists_cons_of_ne_nil (List.splitOn_ne_nil separator rest)
      rw [List.splitOn_cons_eq_if_modifyHead]
      by_cases hfirst : (first == separator) = true
      · rw [if_pos hfirst]
        have hother : c ≠ first := fun hsame => hne (hsame.trans (beq_iff_eq.mp hfirst))
        obtain ⟨piece, hpiece, hc⟩ := ih ((List.mem_cons.mp hmem).resolve_left hother)
        exact ⟨piece, List.mem_cons_of_mem _ hpiece, hc⟩
      · rw [if_neg hfirst, hsplit, List.modifyHead_cons]
        rcases List.mem_cons.mp hmem with rfl | hrest
        · exact ⟨c :: head, List.mem_cons_self, List.mem_cons_self⟩
        · obtain ⟨piece, hpiece, hc⟩ := ih hrest
          rw [hsplit] at hpiece
          rcases List.mem_cons.mp hpiece with rfl | hother
          · exact ⟨first :: piece, List.mem_cons_self, List.mem_cons_of_mem _ hc⟩
          · exact ⟨piece, List.mem_cons_of_mem _ hother, hc⟩

/-- A newline at the end of the text makes the last line empty. -/
def lines (text : List Char) : List (List Char) := text.splitOn '\n'

/-- The parts of a line between its spaces. -/
def words (text : List Char) : List (List Char) :=
  (text.splitOn ' ').filter fun word => word ≠ []

theorem lines_append_newline (text behind : List Char) :
    lines (text ++ '\n' :: behind) = lines text ++ lines behind :=
  List.splitOn_append_cons_self text behind

theorem lines_of_notMem {line : List Char} (hline : '\n' ∉ line) : lines line = [line] :=
  List.splitOn_eq_singleton hline

/-- Lines that are written with a newline behind each are read back. -/
theorem lines_flatMap {written : List (List Char)} (hwritten : ∀ line ∈ written, '\n' ∉ line)
    (behind : List Char) :
    lines (written.flatMap (fun line => line ++ ['\n']) ++ behind) = written ++ lines behind := by
  induction written with
  | nil => rfl
  | cons first rest ih =>
      have hfirst : '\n' ∉ first := hwritten first List.mem_cons_self
      have hrest := ih fun line hmem => hwritten line (List.mem_cons_of_mem first hmem)
      rw [List.flatMap_cons, List.append_assoc, List.append_assoc, List.singleton_append,
        lines_append_newline, lines_of_notMem hfirst, hrest]
      rfl

theorem notMem_intercalate {c : Char} {separator : List Char} {pieces : List (List Char)}
    (hseparator : c ∉ separator) (hpieces : ∀ piece ∈ pieces, c ∉ piece) :
    c ∉ separator.intercalate pieces := by
  induction pieces with
  | nil => exact List.not_mem_nil
  | cons first rest ih =>
      have hfirst : c ∉ first := hpieces first List.mem_cons_self
      have hrest := ih fun piece hmem => hpieces piece (List.mem_cons_of_mem first hmem)
      cases rest with
      | nil => rwa [List.intercalate_singleton]
      | cons second rest =>
          rw [List.intercalate_cons_cons]
          simp only [List.mem_append, not_or]
          exact ⟨⟨hfirst, hseparator⟩, hrest⟩

theorem words_append_space (text behind : List Char) :
    words (text ++ ' ' :: behind) = words text ++ words behind := by
  unfold words
  rw [List.splitOn_append_cons_self, List.filter_append]

theorem words_of_notMem {word : List Char} (hne : word ≠ []) (hword : ' ' ∉ word) :
    words word = [word] := by
  unfold words
  rw [List.splitOn_eq_singleton hword]
  simp [hne]

theorem words_replicate_append (count : Nat) (text : List Char) :
    words (List.replicate count ' ' ++ text) = words text := by
  induction count with
  | zero => rfl
  | succ count ih =>
      have hspace := words_append_space [] (List.replicate count ' ' ++ text)
      rw [List.replicate_succ, List.cons_append]
      rw [List.nil_append, ih] at hspace
      exact hspace

end OpcodeTables.Text
