import OpcodeTables.Proofs.FileSystem.Pieces
import OpcodeTables.Proofs.FileSystem.Directories

/-!
# The entries of a directory

In a well formed file system every name is one that a path can hold, and nothing
stands at a location twice.  A listing then holds each entry of a directory once, in
the order of the names.
-/

namespace OpcodeTables.FileSystem

/-- Every entry has its own location, whose names are names of entries. -/
structure WellFormed (files : FileSystem) : Prop where
  isName : ∀ entry ∈ files.entries, ∀ name ∈ entry.1, Path.IsName name
  length_le : ∀ entry ∈ files.entries, ∀ name ∈ entry.1, name.utf8ByteSize ≤ 255
  distinct : (files.entries.map Prod.fst).Nodup

instance (files : FileSystem) : Decidable files.WellFormed :=
  decidable_of_iff
    ((∀ entry ∈ files.entries, ∀ name ∈ entry.1, Path.IsName name) ∧
      (∀ entry ∈ files.entries, ∀ name ∈ entry.1, name.utf8ByteSize ≤ 255) ∧
        (files.entries.map Prod.fst).Nodup)
    ⟨fun ⟨hname, hlength, hdistinct⟩ => ⟨hname, hlength, hdistinct⟩,
      fun hfiles => ⟨hfiles.isName, hfiles.length_le, hfiles.distinct⟩⟩

variable {files : FileSystem} {directory location : Location} {name : String} {node : Node}

/-! ## What stands at a location -/

theorem find?_eq_some_iff {entries : List (Location × Node)}
    (hdistinct : (entries.map Prod.fst).Nodup) :
    find? location entries = some node ↔ (location, node) ∈ entries := by
  induction entries with
  | nil => simp [find?]
  | cons entry rest ih =>
      obtain ⟨here, held⟩ := entry
      rw [List.map_cons, List.nodup_cons] at hdistinct
      simp only [find?, isSame_iff, List.mem_cons, Prod.mk.injEq]
      by_cases hsame : here = location
      · subst hsame
        have hother : (here, node) ∉ rest := fun hmem =>
          hdistinct.1 (List.mem_map.mpr ⟨_, hmem, rfl⟩)
        simp [hother, eq_comm]
      · rw [if_neg hsame, ih hdistinct.2]
        simp [Ne.symm hsame]

theorem WellFormed.node?_concat_iff (hfiles : files.WellFormed) :
    files.node? (directory ++ [name]) = some node ↔
      (directory ++ [name], node) ∈ files.entries := by
  rw [node?, if_neg (List.concat_ne_nil name directory), find?_eq_some_iff hfiles.distinct]

theorem WellFormed.isName_of_node? (hfiles : files.WellFormed)
    (hnode : files.node? (directory ++ [name]) = some node) : Path.IsName name :=
  hfiles.isName _ (hfiles.node?_concat_iff.mp hnode) name List.mem_concat_self

theorem WellFormed.length_le_of_node? (hfiles : files.WellFormed)
    (hnode : files.node? (directory ++ [name]) = some node) : name.utf8ByteSize ≤ 255 :=
  hfiles.length_le _ (hfiles.node?_concat_iff.mp hnode) name List.mem_concat_self

/-! ## Listings -/

/-- The name and the node of an entry that lies in a directory. -/
def entryIn? (directory : Location) (entry : Location × Node) : Option (String × Node) :=
  match entry.1.getLast? with
  | none => none
  | some name =>
    if entry.1.length == directory.length + 1 && entry.1.dropLast == directory then
      some (name, entry.2)
    else none

theorem entriesIn_eq (files : FileSystem) (directory : Location) :
    files.entriesIn directory =
      (files.entries.filterMap (entryIn? directory)).mergeSort
        fun entry other => decide (entry.1 ≤ other.1) := rfl

theorem entryIn?_eq_some_iff {entry : Location × Node} :
    entryIn? directory entry = some (name, node) ↔ entry = (directory ++ [name], node) := by
  obtain ⟨here, held⟩ := entry
  constructor
  · intro hentry
    unfold entryIn? at hentry
    split at hentry
    · cases hentry
    · next last hlast =>
        split_ifs at hentry with hinside
        cases hentry
        rw [Bool.and_eq_true, beq_iff_eq, beq_iff_eq] at hinside
        obtain ⟨front, rfl⟩ := List.getLast?_eq_some_iff.mp hlast
        simpa using hinside.2
  · intro hentry
    cases hentry
    simp [entryIn?]

/-- A listing tells what stands below a directory. -/
theorem mem_entriesIn_iff (hfiles : files.WellFormed) :
    (name, node) ∈ files.entriesIn directory ↔ files.node? (directory ++ [name]) = some node := by
  rw [entriesIn_eq, List.mem_mergeSort, List.mem_filterMap, hfiles.node?_concat_iff]
  simp only [entryIn?_eq_some_iff, exists_eq_right]

theorem isName_of_mem_entriesIn (hfiles : files.WellFormed) {entry : String × Node}
    (hmem : entry ∈ files.entriesIn directory) : Path.IsName entry.1 :=
  hfiles.isName_of_node? ((mem_entriesIn_iff hfiles).mp hmem)

/-- A listing is in strictly ascending order, so it holds no name twice. -/
theorem pairwise_entriesIn (hfiles : files.WellFormed) (directory : Location) :
    (files.entriesIn directory).Pairwise fun entry other => entry.1 < other.1 := by
  have hdistinct : (files.entries.filterMap (entryIn? directory)).Pairwise
      fun entry other => entry.1 ≠ other.1 := by
    refine List.Pairwise.filterMap _ ?_ (List.pairwise_map.mp hfiles.distinct)
    rintro first second hne ⟨name, node⟩ hfirst ⟨other, held⟩ hsecond rfl
    rw [entryIn?_eq_some_iff.mp hfirst, entryIn?_eq_some_iff.mp hsecond] at hne
    exact hne rfl
  have hsorted : ((files.entries.filterMap (entryIn? directory)).mergeSort
      fun entry other => decide (entry.1 ≤ other.1)).Pairwise
        fun entry other => decide (entry.1 ≤ other.1) = true := by
    apply List.pairwise_mergeSort
    · intro first second third hfirst hsecond
      rw [decide_eq_true_eq] at hfirst hsecond ⊢
      exact hfirst.trans hsecond
    · intro first second
      simpa using le_total first.1 second.1
  have hkept := (List.mergeSort_perm (files.entries.filterMap (entryIn? directory))
    (fun entry other => decide (entry.1 ≤ other.1))).symm.pairwise hdistinct
      (fun hne => hne.symm)
  rw [entriesIn_eq]
  refine (hsorted.and hkept).imp ?_
  rintro first second ⟨hle, hne⟩
  exact lt_of_le_of_ne (of_decide_eq_true hle) hne

end OpcodeTables.FileSystem
