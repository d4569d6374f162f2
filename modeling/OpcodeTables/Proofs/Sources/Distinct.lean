import OpcodeTables.Proofs.Catalogue.Repetition
import OpcodeTables.Proofs.Generation.Exits
import OpcodeTables.Proofs.Glob.Distinct
import OpcodeTables.Proofs.Sources.Finding

/-!
# Reading no source twice

A pattern of which at most one part stretches finds no path twice.  Where moreover
every opcode is annotated at most once in the sources, the scan meets no conflict.
-/

namespace OpcodeTables

namespace Sources

open Glob History

variable {files : FileSystem} {directory pattern : String} {paths : List String}
  {catalogue : Catalogue}

/-! ## Paths -/

theorem stepsFound_map_ok (found : List String) :
    stepsFound (found.map .ok) = found.map Path.steps := by
  induction found with
  | nil => rfl
  | cons first rest ih =>
      rw [List.map_cons, List.map_cons, ← ih]
      rfl

theorem nodup_steps_of_discover (hfiles : files.WellFormed) (hpattern : stretchesIn pattern ≤ 1)
    (hfound : discover files directory pattern = .ok paths) : (paths.map Path.steps).Nodup := by
  obtain ⟨found, hwalk, rfl⟩ := discover_eq_ok_iff.mp hfound
  obtain ⟨-, -, hwhole⟩ := walk_eq_ok_iff.mp hwalk
  have hstretches := (stretches_componentsOf_le directory pattern).trans hpattern
  have hnodup : (stepsFound (found.map .ok)).Nodup := by
    rw [hwhole]
    exact separates hfiles _ _ (slashFree_componentsOf _) hstretches
  rw [stepsFound_map_ok] at hnodup
  exact hnodup.sublist (List.filter_sublist.map Path.steps)

/-! ## Opcodes -/

/-- The opcodes that are annotated in a source, as often as they are. -/
def annotatedAt (files : FileSystem) (path : String) : List (Space × Opcode) :=
  (sightings (callsAt files path)).map Sighting.key

/-- No opcode is annotated twice in some sources, each of which counts once. -/
def AnnotatedOnce (files : FileSystem) (paths : List String) : Prop :=
  (paths.dedup.flatMap (annotatedAt files)).Nodup

theorem map_key_sightings (files : FileSystem) (paths : List String) :
    (sightings (paths.flatMap (callsAt files))).map Sighting.key =
      paths.flatMap (annotatedAt files) := by
  rw [sightings, List.flatMap_assoc, List.map_flatMap]
  rfl

theorem Gathers.conflicts_eq_nil (hgathers : Gathers files directory pattern paths catalogue)
    (hpaths : paths.Nodup) (honce : AnnotatedOnce files paths) : catalogue.conflicts = [] := by
  rw [AnnotatedOnce, hpaths.dedup, ← map_key_sightings] at honce
  rw [hgathers.complete]
  exact (Catalogue.performAll_reflects _).conflicts_eq_nil_iff.mpr honce

/-- Without conflicts no run fails for duplicates. -/
theorem run_ne_duplicates {options : Options}
    (hnone : ∀ paths catalogue,
      Gathers files options.sourceDirectory options.pattern paths catalogue →
        catalogue.conflicts = []) (conflicts : List Conflict) :
    (Generation.run options { files }).1 ≠ .error (.duplicates conflicts) := by
  intro hfailed
  obtain ⟨paths, catalogue, hgathers, hdenied, -⟩ := Generation.run_eq_duplicates_iff.mp hfailed
  exact hdenied.1 (hnone paths catalogue hgathers)

/-- A pattern with at most one stretching part finds every path once.  If then no opcode
is annotated twice there are no conflicts, and no run fails for duplicates. -/
theorem discover_distinct (hfiles : files.WellFormed) (hpattern : stretchesIn pattern ≤ 1)
    (hfound : discover files directory pattern = .ok paths) :
    (paths.map Path.steps).Nodup ∧ paths.Nodup ∧
      (AnnotatedOnce files paths →
        (∀ catalogue, (scanDirectory { files } directory pattern).1 = .ok catalogue →
          catalogue.conflicts = []) ∧
        ∀ options : Options, options.sourceDirectory = directory → options.pattern = pattern →
          ∀ conflicts,
            (Generation.run options { files }).1 ≠ .error (.duplicates conflicts)) := by
  have hsteps := nodup_steps_of_discover hfiles hpattern hfound
  have hpaths : paths.Nodup := hsteps.of_map _
  refine ⟨hsteps, hpaths, fun honce => ?_⟩
  have hnone : ∀ others catalogue, Gathers files directory pattern others catalogue →
      catalogue.conflicts = [] := by
    intro others catalogue hgathers
    have hsame := hgathers.found
    rw [hfound] at hsame
    cases hsame
    exact hgathers.conflicts_eq_nil hpaths honce
  constructor
  · intro catalogue hscan
    obtain ⟨others, hgathers⟩ := (scanDirectory_eq_ok_iff rfl).mp hscan
    exact hnone others catalogue hgathers
  · rintro options rfl rfl conflicts
    exact run_ne_duplicates hnone conflicts

/-- One recursive component finds a file below a directory once. -/
theorem discover_distinct_one_recursion :
    let files : FileSystem :=
      { entries := [(["a"], .directory),
          (["a", "x.rs"], .file (Utf8.encode "// 'X' 00 4\npub fn f("))] }
    stretchesIn "**/*.rs" ≤ 1 ∧ discover files "." "**/*.rs" = .ok ["a/x.rs"] ∧
      ∀ catalogue, (scanDirectory { files } "." "**/*.rs").1 = .ok catalogue →
        catalogue.conflicts = [] := by
  intro files
  have hfiles : files.WellFormed := by decide
  have hpattern : stretchesIn "**/*.rs" ≤ 1 := by decide +kernel
  have hfound : discover files "." "**/*.rs" = .ok ["a/x.rs"] :=
    eq_ok_of_toOption (by decide +kernel)
  have honce : AnnotatedOnce files ["a/x.rs"] := by
    unfold AnnotatedOnce
    decide +kernel
  exact ⟨hpattern, hfound, ((discover_distinct hfiles hpattern hfound).2.2 honce).1⟩

/-- With two recursive components between which a directory is named, a path is found
once for each directory of that name on its way.  Its one annotation is then in conflict
with itself. -/
theorem discover_twice :
    let files : FileSystem :=
      { entries := [(["a"], .directory), (["a", "a"], .directory),
          (["a", "a", "x.rs"], .file (Utf8.encode "// 'X' 00 4\npub fn f("))] }
    let paths := ["a/a/x.rs", "a/a/x.rs"]
    let conflict : Conflict :=
      ⟨.primary, 0, ⟨"X", "f", "4", "a/a/x.rs"⟩, ⟨"X", "f", "4", "a/a/x.rs"⟩⟩
    let options : Options :=
      { sourceDirectory := ".", pattern := "**/a/**/x.rs", denyDuplicates := true }
    files.WellFormed ∧ discover files "." "**/a/**/x.rs" = .ok paths ∧ ¬ paths.Nodup ∧
      AnnotatedOnce files paths ∧
      (scanDirectory { files } "." "**/a/**/x.rs").1.map Catalogue.conflicts = .ok [conflict] ∧
      (Generation.run options { files }).1 = .error (.duplicates [conflict]) := by
  intro files paths conflict options
  have hfound : discover files "." "**/a/**/x.rs" = .ok paths :=
    eq_ok_of_toOption (by decide +kernel)
  have hscan : (scanDirectory { files } "." "**/a/**/x.rs").1.map Catalogue.conflicts =
      .ok [conflict] := eq_ok_of_toOption (by decide +kernel)
  have honce : AnnotatedOnce files paths := by
    unfold AnnotatedOnce
    decide +kernel
  obtain ⟨catalogue, hcatalogue, hconflicts⟩ := map_eq_ok hscan
  obtain ⟨found, hgathers⟩ := (scanDirectory_eq_ok_iff rfl).mp hcatalogue
  have hdenied : Generation.Denied options catalogue := ⟨by simp [hconflicts], rfl⟩
  have hrun : (Generation.run options { files }).1 = .error (.duplicates catalogue.conflicts) :=
    (Generation.run_of_denied hgathers hdenied).1
  rw [hconflicts] at hrun
  exact ⟨by decide, hfound, by decide, honce, hscan, hrun⟩

end Sources

end OpcodeTables
