import OpcodeTables.Proofs.Glob.Components
import OpcodeTables.Sources

/-!
# What is found below a directory

Finding sources succeeds where the pattern is well formed and every directory that the
walk enters can be listed.  What is found are then the matches of the walk, in their
order, without those that lead to directories.
-/

namespace OpcodeTables.Sources

open Glob

theorem eq_ok_of_toOption {ε α : Type} {result : Except ε α} {value : α}
    (hvalue : result.toOption = some value) : result = .ok value := by
  cases result with
  | error error => cases hvalue
  | ok found => exact congrArg Except.ok (Option.some.inj hvalue)

theorem matchesOf_eq_ok_iff {found : List Found} {paths : List String} :
    matchesOf found = .ok paths ↔ found = paths.map .ok := by
  induction found generalizing paths with
  | nil => cases paths <;> simp [matchesOf]
  | cons first rest ih =>
      cases first with
      | error error => cases paths <;> simp [matchesOf]
      | ok path =>
          constructor
          · intro hmatches
            obtain ⟨inner, hinner, rfl⟩ := map_eq_ok hmatches
            rw [ih.mp hinner, List.map_cons]
          · intro hfound
            cases paths with
            | nil => cases hfound
            | cons other others =>
                obtain ⟨hfirst, hrest⟩ := List.cons.inj hfound
                rw [matchesOf, ih.mpr hrest, Except.ok.inj hfirst]
                rfl

/-- What is found: the matches in their order, but for those that lead to directories.
-/
theorem discover_eq_ok_iff {files : FileSystem} {directory pattern : String}
    {paths : List String} :
    discover files directory pattern = .ok paths ↔
      ∃ found : List String,
        walk files (Path.join (escape directory) pattern) = .ok (found.map .ok) ∧
          paths = found.filter fun path => !files.isDirectory path := by
  unfold discover
  cases walk files (Path.join (escape directory) pattern) with
  | error error => simp [Except.mapError, bind, Except.bind]
  | ok found =>
      simp only [Except.mapError, Except.bind_eq_ok_iff, Except.ok.injEq]
      constructor
      · rintro ⟨_, rfl, matched, hmatches, hpaths⟩
        exact ⟨matched, matchesOf_eq_ok_iff.mp hmatches, (Except.ok.inj hpaths).symm⟩
      · rintro ⟨matched, rfl, rfl⟩
        exact ⟨_, rfl, matched, matchesOf_eq_ok_iff.mpr rfl, rfl⟩

end OpcodeTables.Sources
