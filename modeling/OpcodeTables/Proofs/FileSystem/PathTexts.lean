import OpcodeTables.FileSystem.Path
import OpcodeTables.Proofs.Text.Lines

/-!
# The texts of paths

The pieces of a path hold no slash.  So a file's stem holds none either, and the
path above a path ends in one only if it is the root.
-/

namespace OpcodeTables.Path

theorem slash_notMem_of_mem_pieces {path piece : String} (hmem : piece ∈ pieces path) :
    '/' ∉ piece.toList := by
  obtain ⟨chars, hchars, rfl⟩ := List.mem_map.mp hmem
  rw [String.toList_ofList]
  exact Text.notMem_of_mem_splitOn hchars

/-! ## Stems -/

theorem mem_pieces_of_fileName? {path name : String} (hname : fileName? path = some name) :
    name ∈ pieces path := by
  unfold fileName? at hname
  split at hname
  · cases hname
  · next last hlast =>
      split_ifs at hname
      cases hname
      exact (List.mem_filter.mp (List.mem_of_getLast? hlast)).1

theorem mem_stemOf {name : String} {c : Char} (hmem : c ∈ (stemOf name).toList) :
    c ∈ name.toList := by
  unfold stemOf at hmem
  split at hmem
  · exact hmem
  · exact hmem
  · next dot stem _ hsplit =>
      rw [String.toList_ofList, List.mem_reverse] at hmem
      have hsuffix : dot :: stem <:+ name.toList.reverse := hsplit ▸ List.dropWhile_suffix _
      exact List.mem_reverse.mp (hsuffix.subset (List.mem_cons_of_mem dot hmem))

theorem slash_notMem_of_stem? {path module : String} (hstem : stem? path = some module) :
    '/' ∉ module.toList := by
  obtain ⟨name, hname, rfl⟩ := Option.map_eq_some_iff.mp hstem
  intro hmem
  exact slash_notMem_of_mem_pieces (mem_pieces_of_fileName? hname) (mem_stemOf hmem)

/-! ## The path above -/

theorem mem_of_mem_dropIdleEnd {pieces : List String} {piece : String}
    (hmem : piece ∈ dropIdleEnd pieces) : piece ∈ pieces := by
  have hkept := (List.dropWhile_suffix isIdle).subset (List.mem_reverse.mp hmem)
  exact List.mem_reverse.mp hkept

theorem exists_concat_dropIdleEnd {pieces : List String} (hne : dropIdleEnd pieces ≠ []) :
    ∃ init last, dropIdleEnd pieces = init ++ [last] ∧ isIdle last = false := by
  unfold dropIdleEnd at hne ⊢
  cases hkept : pieces.reverse.dropWhile isIdle with
  | nil => simp [hkept] at hne
  | cons last others =>
      have hhead := List.head?_dropWhile_not isIdle pieces.reverse
      rw [hkept] at hhead
      exact ⟨others.reverse, last, List.reverse_cons, by simpa using hhead⟩

theorem exists_intercalate_concat (separator : List Char) (init : List (List Char))
    (last : List Char) : ∃ front, separator.intercalate (init ++ [last]) = front ++ last := by
  induction init with
  | nil => exact ⟨[], List.intercalate_singleton⟩
  | cons first rest ih =>
      obtain ⟨front, hfront⟩ := ih
      refine ⟨first ++ separator ++ front, ?_⟩
      rw [List.cons_append, List.intercalate_cons_of_ne_nil (List.concat_ne_nil last rest), hfront]
      simp only [List.append_assoc]

theorem endsInSlash_intercalate (init : List String) {last : String} (hne : last ≠ "")
    (hslash : '/' ∉ last.toList) :
    endsInSlash (String.intercalate "/" (init ++ [last])) = false := by
  have hlast : last.toList ≠ [] := by simpa using hne
  obtain ⟨front, hfront⟩ :=
    exists_intercalate_concat "/".toList (init.map String.toList) last.toList
  rw [endsInSlash, String.toList_intercalate, List.map_append, List.map_singleton, hfront,
    List.getLast?_append_of_ne_nil _ hlast]
  rw [beq_eq_false_iff_ne]
  intro hend
  exact hslash (List.mem_of_getLast? hend)

theorem ne_empty_of_not_isIdle {piece : String} (hidle : isIdle piece = false) : piece ≠ "" := by
  rintro rfl
  cases hidle

/-- Of the paths that are not empty only the root ends in a slash. -/
def IsTrimmed (path : String) : Prop :=
  path = "" ∨ path = "/" ∨ endsInSlash path = false

theorem isTrimmed_parent? {path above : String} (hparent : parent? path = some above) :
    IsTrimmed above := by
  have hpieces : ∀ piece ∈ pieces path, '/' ∉ piece.toList :=
    fun _ => slash_notMem_of_mem_pieces
  unfold parent? at hparent
  split at hparent
  · cases hparent
  · next first rest hfirst =>
      rw [hfirst, List.forall_mem_cons] at hpieces
      split at hparent
      · split_ifs at hparent
        cases hparent
        exact .inl rfl
      · next last others hnamed =>
          split at hparent
          · cases hparent
            exact .inr (.inl rfl)
          · next hroot =>
              obtain rfl := Option.some.inj hparent
              refine .inr (.inr ?_)
              -- either only the first piece is left, or what is left ends in a name
              by_cases hkept : dropIdleEnd (last :: others).dropLast = []
              · rw [hkept] at hroot ⊢
                have hne : first ≠ "" := fun hempty => hroot (by rw [hempty])
                exact endsInSlash_intercalate [] hne hpieces.1
              · obtain ⟨init, final, hinit, hidle⟩ := exists_concat_dropIdleEnd hkept
                have hmem : final ∈ rest := by
                  have hfinal : final ∈ (last :: others).dropLast :=
                    mem_of_mem_dropIdleEnd (hinit ▸ List.mem_concat_self)
                  exact mem_of_mem_dropIdleEnd (hnamed ▸ (List.dropLast_sublist _).subset hfinal)
                rw [hinit, ← List.cons_append]
                exact endsInSlash_intercalate (first :: init) (ne_empty_of_not_isIdle hidle)
                  (hpieces.2 final hmem)

theorem isTrimmed_of_mem_withParents {path above : String} {count : Nat}
    (htrimmed : IsTrimmed path) (hmem : above ∈ withParents path count) : IsTrimmed above := by
  induction count generalizing path with
  | zero => cases hmem
  | succ count ih =>
      rw [withParents, List.mem_cons] at hmem
      rcases hmem with rfl | hmem
      · exact htrimmed
      · cases hparent : parent? path with
        | none => simp [hparent] at hmem
        | some parent =>
            simp only [hparent] at hmem
            exact ih (isTrimmed_parent? hparent) hmem

theorem isTrimmed_of_mem_ancestors {path directory above : String}
    (hparent : parent? path = some directory) (hmem : above ∈ ancestors directory) :
    IsTrimmed above :=
  isTrimmed_of_mem_withParents (isTrimmed_parent? hparent) hmem

end OpcodeTables.Path
