import OpcodeTables.Glob.Walk
import OpcodeTables.Proofs.FileSystem.PathTexts

/-!
# The pieces of longer paths

A slash between two paths puts the pieces of one behind those of the other.  The
steps of a path are its pieces without those that name nothing; a name below a
directory adds its own steps to those of the directory, whichever way the two are
joined.
-/

namespace OpcodeTables

open Glob (below)

namespace Path

/-- A name that stands for itself in a path. -/
structure IsName (name : String) : Prop where
  ne_empty : name ≠ ""
  ne_dot : name ≠ "."
  ne_above : name ≠ ".."
  no_slash : '/' ∉ name.toList
  no_nul : '\x00' ∉ name.toList

instance (name : String) : Decidable (IsName name) :=
  decidable_of_iff
    (name ≠ "" ∧ name ≠ "." ∧ name ≠ ".." ∧ '/' ∉ name.toList ∧ '\x00' ∉ name.toList)
    ⟨fun ⟨hempty, hdot, habove, hslash, hnul⟩ => ⟨hempty, hdot, habove, hslash, hnul⟩,
      fun hname => ⟨hname.ne_empty, hname.ne_dot, hname.ne_above, hname.no_slash, hname.no_nul⟩⟩

theorem IsName.isIdle {name : String} (hname : IsName name) : isIdle name = false := by
  simp [Path.isIdle, hname.ne_empty, hname.ne_dot]

/-! ## Pieces -/

theorem pieces_ne_nil (path : String) : pieces path ≠ [] := by
  simp [pieces, List.splitOn_ne_nil]

theorem pieces_of_notMem {text : String} (hslash : '/' ∉ text.toList) : pieces text = [text] := by
  rw [pieces, List.splitOn_eq_singleton hslash, List.map_singleton, String.ofList_toList]

theorem pieces_append_slash (front behind : String) :
    pieces (front ++ "/" ++ behind) = pieces front ++ pieces behind := by
  have hchars : (front ++ "/" ++ behind).toList = front.toList ++ '/' :: behind.toList := by
    simp
  rw [pieces, hchars, List.splitOn_append_cons_self, List.map_append, pieces, pieces]

/-- A path is determined by its pieces. -/
theorem pieces_injective : Function.Injective pieces := by
  intro path other hsame
  have hchars := (List.map_injective_iff.mpr fun _ _ => String.ofList_inj.mp) hsame
  have hjoined := congrArg (List.intercalate ['/']) hchars
  rw [List.intercalate_splitOn, List.intercalate_splitOn] at hjoined
  exact String.toList_inj.mp hjoined

theorem pieces_intercalate {names : List String} (hne : names ≠ [])
    (hslash : ∀ name ∈ names, '/' ∉ name.toList) :
    pieces (String.intercalate "/" names) = names := by
  have hseparator : "/".toList = ['/'] := rfl
  rw [pieces, String.toList_intercalate, hseparator, List.splitOn_intercalate, List.map_map]
  · simp
  · simpa using hslash
  · simpa using hne

theorem pieces_concat_slash (front : String) : pieces (front ++ "/") = pieces front ++ [""] := by
  simpa [pieces_of_notMem] using pieces_append_slash front ""

theorem exists_front_of_endsInSlash {path : String} (hslash : endsInSlash path = true) :
    ∃ front, path = front ++ "/" := by
  rw [endsInSlash, beq_iff_eq] at hslash
  obtain ⟨front, hfront⟩ := List.getLast?_eq_some_iff.mp hslash
  refine ⟨String.ofList front, String.toList_inj.mp ?_⟩
  simp [hfront]

@[simp] theorem endsInSlash_concat_slash (front : String) : endsInSlash (front ++ "/") = true := by
  simp [endsInSlash]

theorem endsInSlash_append_of_notMem (front : String) {behind : String} (hempty : behind ≠ "")
    (hslash : '/' ∉ behind.toList) : endsInSlash (front ++ behind) = false := by
  have hchars : behind.toList ≠ [] := fun hnil => hempty (String.toList_eq_nil_iff.mp hnil)
  rw [endsInSlash, String.toList_append, List.getLast?_append_of_ne_nil _ hchars,
    beq_eq_false_iff_ne]
  exact fun hlast => hslash (List.mem_of_getLast? hlast)

/-! ## Steps -/

/-- The pieces of a path that name something. -/
def steps (path : String) : List String := (pieces path).filter fun piece => !isIdle piece

theorem steps_append_slash (front behind : String) :
    steps (front ++ "/" ++ behind) = steps front ++ steps behind := by
  rw [steps, pieces_append_slash, List.filter_append, steps, steps]

theorem steps_of_isIdle {text : String} (hidle : isIdle text = true) : steps text = [] := by
  have hslash : '/' ∉ text.toList := by
    rw [isIdle, Bool.or_eq_true, beq_iff_eq, beq_iff_eq] at hidle
    rcases hidle with rfl | rfl <;> decide
  rw [steps, pieces_of_notMem hslash]
  simp [hidle]

@[simp] theorem steps_empty : steps "" = [] := steps_of_isIdle rfl

theorem steps_of_not_isIdle {text : String} (hslash : '/' ∉ text.toList)
    (hidle : isIdle text = false) : steps text = [text] := by
  rw [steps, pieces_of_notMem hslash]
  simp [hidle]

@[simp] theorem steps_dot : steps "." = [] := steps_of_isIdle rfl

@[simp] theorem steps_above : steps ".." = [".."] := steps_of_not_isIdle (by decide) rfl

theorem IsName.steps_eq {name : String} (hname : IsName name) : steps name = [name] :=
  steps_of_not_isIdle hname.no_slash hname.isIdle

theorem isAbsolute_of_notMem {name : String} (hslash : '/' ∉ name.toList) :
    isAbsolute name = false := by
  rw [isAbsolute, beq_eq_false_iff_ne]
  exact fun hhead => hslash (List.mem_of_head? hhead)

theorem steps_join (directory : String) {name : String} (hslash : '/' ∉ name.toList) :
    steps (join directory name) = steps directory ++ steps name := by
  unfold join
  by_cases hempty : directory = ""
  · subst hempty
    simp
  · rw [if_neg (by simp [isAbsolute_of_notMem hslash, hempty])]
    by_cases hend : endsInSlash directory = true
    · obtain ⟨front, rfl⟩ := exists_front_of_endsInSlash hend
      have hfront : steps (front ++ "/") = steps front := by
        have hnothing := steps_append_slash front ""
        simpa using hnothing
      rw [if_pos hend, steps_append_slash, hfront]
    · rw [if_neg hend, steps_append_slash]

theorem steps_of_isHere {path : String} (hhere : isHere path = true) : steps path = [] := by
  unfold isHere at hhere
  split at hhere
  · next rest hpieces =>
      rw [steps, hpieces, List.filter_eq_nil_iff]
      rw [List.all_eq_true] at hhere
      intro piece hmem
      rcases List.mem_cons.mp hmem with rfl | hrest
      · decide
      · simp [hhere piece hrest]
  · cases hhere

theorem steps_below (directory : String) {name : String} (hslash : '/' ∉ name.toList) :
    steps (below directory name) = steps directory ++ steps name := by
  unfold below
  by_cases hhere : isHere directory = true
  · rw [if_pos hhere, steps_of_isHere hhere, List.nil_append]
  · rw [if_neg hhere, steps_join directory hslash]

theorem fileName?_eq (path : String) :
    fileName? path =
      (steps path).getLast?.bind fun name => if name == ".." then none else some name := by
  unfold fileName?
  rw [← steps]
  cases (steps path).getLast? <;> rfl

theorem fileName?_below (directory : String) {name : String} (hname : IsName name) :
    fileName? (below directory name) = some name := by
  rw [fileName?_eq, steps_below directory hname.no_slash, hname.steps_eq]
  simp [hname.ne_above]

/-! ## Plain paths -/

/-- One or more names joined by single slashes. -/
def IsPlain (path : String) : Prop := ∀ piece ∈ pieces path, IsName piece

section Plain

variable {path name : String}

theorem IsName.isPlain (hname : IsName name) : IsPlain name := by
  rw [IsPlain, pieces_of_notMem hname.no_slash]
  simpa using hname

theorem IsPlain.append (hpath : IsPlain path) (hname : IsName name) :
    IsPlain (path ++ "/" ++ name) := by
  intro piece hmem
  rw [pieces_append_slash, List.mem_append] at hmem
  rcases hmem with hfront | hlast
  · exact hpath piece hfront
  · exact hname.isPlain piece hlast

theorem IsPlain.ne_empty (hpath : IsPlain path) : path ≠ "" := by
  rintro rfl
  exact (hpath "" (by decide)).ne_empty rfl

theorem IsPlain.no_nul (hpath : IsPlain path) : '\x00' ∉ path.toList := by
  intro hmem
  obtain ⟨chars, hchars, hnul⟩ := Text.exists_mem_splitOn hmem (by decide : '\x00' ≠ '/')
  apply (hpath (String.ofList chars) (List.mem_map_of_mem hchars)).no_nul
  rwa [String.toList_ofList]

theorem IsPlain.isAbsolute (hpath : IsPlain path) : isAbsolute path = false := by
  rw [Path.isAbsolute, beq_eq_false_iff_ne]
  intro hhead
  obtain ⟨rest, hrest⟩ := List.head?_eq_some_iff.mp hhead
  have hempty : "" ∈ pieces path := by
    rw [pieces, hrest, List.splitOn_cons_eq_if_modifyHead]
    simp
  exact (hpath "" hempty).ne_empty rfl

theorem IsPlain.endsInSlash (hpath : IsPlain path) : endsInSlash path = false := by
  rw [← Bool.not_eq_true]
  intro hslash
  obtain ⟨front, rfl⟩ := exists_front_of_endsInSlash hslash
  have hempty : "" ∈ pieces (front ++ "/") := by
    rw [pieces_concat_slash]
    exact List.mem_concat_self
  exact (hpath "" hempty).ne_empty rfl

theorem IsPlain.isAbsolute_append (hpath : IsPlain path) (name : String) :
    Path.isAbsolute (path ++ "/" ++ name) = false := by
  have hchars : path.toList ≠ [] := fun hnil => hpath.ne_empty (String.toList_eq_nil_iff.mp hnil)
  rw [Path.isAbsolute, String.append_assoc, String.toList_append,
    List.head?_append_of_ne_nil _ hchars]
  exact hpath.isAbsolute

theorem IsPlain.isHere (hpath : IsPlain path) : isHere path = false := by
  rw [← Bool.not_eq_true]
  intro hhere
  unfold Path.isHere at hhere
  split at hhere
  · next rest hpieces =>
      exact (hpath "." (hpieces ▸ List.mem_cons_self)).ne_dot rfl
  · cases hhere

theorem IsPlain.join (hpath : IsPlain path) (hslash : '/' ∉ name.toList) :
    Path.join path name = path ++ "/" ++ name := by
  simp [Path.join, isAbsolute_of_notMem hslash, hpath.ne_empty, hpath.endsInSlash]

theorem IsPlain.below (hpath : IsPlain path) (hslash : '/' ∉ name.toList) :
    Glob.below path name = path ++ "/" ++ name := by
  rw [Glob.below, if_neg (by simp [hpath.isHere]), hpath.join hslash]

end Plain

end Path

end OpcodeTables
