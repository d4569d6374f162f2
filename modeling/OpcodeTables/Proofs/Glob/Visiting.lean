import OpcodeTables.Proofs.FileSystem.Entries

/-!
# One component of a walk

What a walk finds behind a component it finds behind one path, or else behind a dot
name or an entry of the directory that it has reached.
-/

namespace OpcodeTables

namespace FileSystem

theorem list_eq_ok_iff {files : FileSystem} {path : String} {entries : List (String × Node)} :
    files.list path = .ok entries ↔
      files.exhausted = false ∧
        ∃ location, files.status path = .ok (location, .directory) ∧
          entries = files.entriesIn location := by
  simp only [list, status_eq_ok_iff, Except.bind_eq_ok_iff, Unique.exists_iff,
    PUnit.default_eq_unit, checkHandles_eq_ok_iff]
  constructor
  · rintro ⟨hcheck, hexhausted, ending, hresolve, ⟨here, node⟩, hend, hnode⟩
    cases node with
    | directory =>
        cases hnode
        exact ⟨hexhausted, here, ⟨hcheck, ending, hresolve, hend⟩, rfl⟩
    | file bytes => cases hnode
    | link target => cases hnode
  · rintro ⟨hexhausted, here, ⟨hcheck, ending, hresolve, hend⟩, rfl⟩
    exact ⟨hcheck, hexhausted, ending, hresolve, _, hend, rfl⟩

theorem isName_of_mem_list {files : FileSystem} (hfiles : files.WellFormed) {path : String}
    {entries : List (String × Node)} (hlist : files.list path = .ok entries)
    {entry : String × Node} (hmem : entry ∈ entries) : Path.IsName entry.1 := by
  obtain ⟨-, location, -, rfl⟩ := list_eq_ok_iff.mp hlist
  exact isName_of_mem_entriesIn hfiles hmem

theorem pairwise_list {files : FileSystem} (hfiles : files.WellFormed) {path : String}
    {entries : List (String × Node)} (hlist : files.list path = .ok entries) :
    entries.Pairwise fun entry other => entry.1 < other.1 := by
  obtain ⟨-, location, -, rfl⟩ := list_eq_ok_iff.mp hlist
  exact pairwise_entriesIn hfiles location

end FileSystem

namespace Glob

variable {files : FileSystem} {directoriesOnly : Bool} {limit : Nat} {reached : Reached}
  {component : Pattern} {rest : List Pattern} {continuation : Continuation} {found : String}

@[simp] theorem path_reach (files : FileSystem) (path : String) : (reach files path).path = path :=
  rfl

@[simp] theorem path_reachEntry (files : FileSystem) (directory : String) (entry : String × Node) :
    (reachEntry files directory entry).path = below directory entry.1 := by
  obtain ⟨name, node⟩ := entry
  cases node <;> rfl

/-! ## What is done with a path -/

theorem settle_of_ne_nil (hne : rest ≠ []) :
    settle directoriesOnly continuation reached rest = continuation reached rest := by
  cases rest with
  | nil => exact absurd rfl hne
  | cons component rest => rfl

theorem mem_settle_nil (hfound : .ok found ∈ settle directoriesOnly continuation reached []) :
    found = reached.path := by
  unfold settle at hfound
  split_ifs at hfound
  · cases hfound
  · exact Except.ok.inj (List.mem_singleton.mp hfound)

theorem testName_cons_subset :
    testName directoriesOnly continuation reached (component :: rest) ⊆
      settle directoriesOnly continuation reached rest := by
  rw [testName]
  split
  · exact List.nil_subset _
  · split_ifs
    · exact List.Subset.refl _
    · exact List.nil_subset _

theorem visit_of_not_isRecursive (hcomponent : isRecursive component = false) :
    visit directoriesOnly continuation reached (component :: rest) =
      testName directoriesOnly continuation reached (component :: rest) := by
  simp [visit, hcomponent]

/-! ## What is found behind a component -/

/-- Whether the path below `reached` that a component without wildcards names is there. -/
def isThere (files : FileSystem) (reached : Reached) (name : String) : Bool :=
  if name = "." ∨ name = ".." then reached.isDirectory
  else files.hasEntry (below reached.path name)

/-- The dot names that a component matches in every directory. -/
def dotNames (component : Pattern) : List String :=
  ["..", "."].filter fun name => beginsWithDot component && component.accepts name.toList

theorem mem_dotNames {name : String} (hname : name ∈ dotNames component) :
    (name = ".." ∨ name = ".") ∧ beginsWithDot component = true ∧
      component.accepts name.toList = true := by
  rw [dotNames, List.mem_filter, Bool.and_eq_true] at hname
  exact ⟨by simpa using hname.1, hname.2⟩

/-- A component without wildcards is tested for and not looked for. -/
theorem continueFrom_literal {chars : List Char} (hliteral : component.literal? = some chars) :
    continueFrom files directoriesOnly (limit + 1) reached (component :: rest) =
      if isThere files reached (String.ofList chars) then
        settle directoriesOnly (continueFrom files directoriesOnly limit)
          (reach files (below reached.path (String.ofList chars))) rest
      else [] := by
  simp only [continueFrom, hliteral]
  rfl

/-- A component with wildcards is matched with the dot names and the entries. -/
theorem continueFrom_listing (hliteral : component.literal? = none)
    (hdirectory : reached.isDirectory = true) {entries : List (String × Node)}
    (hlist : files.list reached.path = .ok entries) :
    continueFrom files directoriesOnly (limit + 1) reached (component :: rest) =
      ((dotNames component).flatMap fun name =>
          settle directoriesOnly (continueFrom files directoriesOnly limit)
            (reach files (Path.join reached.path name)) rest) ++
        entries.flatMap fun entry =>
          visit directoriesOnly (continueFrom files directoriesOnly limit)
            (reachEntry files reached.path entry) (component :: rest) := by
  simp only [continueFrom, hliteral, hdirectory, hlist]
  rfl

theorem continueFrom_unlisted (hliteral : component.literal? = none)
    (hdirectory : reached.isDirectory = true) {error : FileError}
    (hlist : files.list reached.path = .error error) :
    continueFrom files directoriesOnly (limit + 1) reached (component :: rest) =
      [.error ⟨reached.path, error⟩] := by
  simp only [continueFrom, hliteral, hdirectory, hlist]
  rfl

theorem continueFrom_of_not_isDirectory (hliteral : component.literal? = none)
    (hdirectory : reached.isDirectory = false) :
    continueFrom files directoriesOnly (limit + 1) reached (component :: rest) = [] := by
  simp [continueFrom, hliteral, hdirectory]

end Glob

end OpcodeTables
