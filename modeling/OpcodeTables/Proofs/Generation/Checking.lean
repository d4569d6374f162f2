import OpcodeTables.Proofs.Generation.Fixpoint

/-!
# Checking against writing

A check compares with the generated sources that the same run would write.  So it
succeeds where both are in place already, and the paths that it complains about are
those at which the run without the check leaves other contents than it found.
-/

namespace OpcodeTables

open FileSystem

namespace GeneratedFile

theorem isCurrent_eq_true_iff {files : FileSystem} {file : GeneratedFile} :
    isCurrent files file = true ↔ files.read file.path = .ok file.bytes := by
  unfold isCurrent
  cases hread : files.read file.path with
  | error error => simp
  | ok bytes => simp

theorem stalePaths_eq (generated : List GeneratedFile) (files : FileSystem) :
    stalePaths generated files =
      (generated.filter fun file => files.read file.path ≠ .ok file.bytes).map path := by
  unfold stalePaths
  congr 2
  funext file
  rw [Bool.eq_iff_iff]
  simp [← isCurrent_eq_true_iff]

end GeneratedFile

/-- The catalogue of a scan that succeeds depends on the files alone. -/
theorem Sources.Gathers.unique {files : FileSystem} {directory pattern : String}
    {paths others : List String} {catalogue other : Catalogue}
    (hgathers : Gathers files directory pattern paths catalogue)
    (hothers : Gathers files directory pattern others other) : catalogue = other := by
  obtain rfl : paths = others := Except.ok.inj (hgathers.found.symm.trans hothers.found)
  rw [hgathers.complete, hothers.complete]

namespace Generation

open GeneratedFile Sources

variable {options : Options} {files : FileSystem} {catalogue : Catalogue} {paths : List String}

/-- A checking run compares the two generated sources with the files. -/
theorem run_check (hcheck : options.check = true)
    (hgathers : Gathers files options.sourceDirectory options.pattern paths catalogue)
    (hallowed : ¬ Denied options catalogue) :
    (run options { files }).1 =
      (if ∀ file ∈ sources options catalogue, files.read file.path = .ok file.bytes then
        .ok catalogue
      else .error (.stale (stalePaths (sources options catalogue) files))) := by
  obtain ⟨world, rfl, -, hresult, -⟩ := run_of_gathers hgathers hallowed
  have hdeliver : deliver options catalogue world =
      checkAll (sources options catalogue) world := by
    rw [deliver, if_pos hcheck]
  rw [hresult, hdeliver]
  simp only [← isCurrent_eq_true_iff]
  by_cases hcurrent : ∀ file ∈ sources options catalogue, isCurrent world.files file = true
  · rw [if_pos hcurrent, checkAll_eq_ok_iff.mpr hcurrent]
    rfl
  · rw [if_neg hcurrent]
    cases hdone : (checkAll (sources options catalogue) world).1 with
    | ok => exact absurd (checkAll_eq_ok_iff.mp hdone) hcurrent
    | error failure =>
        rw [checkAll_eq_error hdone]
        rfl

/-- A run whose outputs are different files leaves each source with its contents. -/
theorem read_sources_of_run {written : Catalogue} {world : World} (hcheck : options.check = false)
    (hgathers : Gathers files options.sourceDirectory options.pattern paths catalogue)
    (hrun : run options { files } = (.ok written, world))
    (hdistinct :
      (options.dispatchPath :: options.disassemblyPath :: options.reportPath.toList).Pairwise
        fun path other => ¬ SameFile world.files path other) :
    ∀ file ∈ sources options catalogue, world.files.read file.path = .ok file.bytes := by
  have hexit := run_exit options files
  rw [hrun] at hexit
  cases hexit with
  | current _ _ hchecks => rw [hcheck] at hchecks; cases hchecks
  | written hagain _ _ hwritten =>
      obtain rfl := hgathers.unique hagain
      rw [← map_path_outputs options catalogue, List.pairwise_map] at hdistinct
      intro file hfile
      obtain ⟨location, hplace⟩ :=
        hwritten.inPlace_of_distinct hdistinct file (List.mem_append_left _ hfile)
      exact isCurrent_eq_true_iff.mp hplace.isCurrent

/-- A checking run succeeds if and only if both generated sources are in place byte for
byte, and else it names those that are not, in their order.  They are the ones that a
writing run would change, if its outputs are different files. -/
theorem run_check_exact (hcheck : options.check = true)
    (hscan : (scanDirectory { files } options.sourceDirectory options.pattern).1 = .ok catalogue)
    (hallowed : ¬ (catalogue.conflicts ≠ [] ∧ options.denyDuplicates = true)) :
    let outcome := (run options { files }).1
    let stale := ((sources options catalogue).filter fun file =>
      files.read file.path ≠ .ok file.bytes).map GeneratedFile.path
    (outcome = .ok catalogue ↔
      ∀ file ∈ sources options catalogue, files.read file.path = .ok file.bytes) ∧
    (outcome ≠ .ok catalogue → outcome = .error (.stale stale)) ∧
    ∀ written world, run { options with check := false } { files } = (.ok written, world) →
      (options.dispatchPath :: options.disassemblyPath :: options.reportPath.toList).Pairwise
        (fun path other => ¬ SameFile world.files path other) →
      (∀ path ∈ stale, ∃ bytes,
        world.files.read path = .ok bytes ∧ files.read path ≠ .ok bytes) ∧
      ∀ path ∈ [options.dispatchPath, options.disassemblyPath], path ∉ stale → ∃ bytes,
        files.read path = .ok bytes ∧ world.files.read path = .ok bytes := by
  intro outcome stale
  obtain ⟨paths, hgathers⟩ := (scanDirectory_eq_ok_iff rfl).mp hscan
  have houtcome : outcome = _ := run_check hcheck hgathers hallowed
  rw [stalePaths_eq] at houtcome
  refine ⟨?_, ?_, ?_⟩
  · rw [houtcome]
    split_ifs with hcurrent
    · exact ⟨fun _ => hcurrent, fun _ => rfl⟩
    · exact ⟨fun hok => (by cases hok), fun hall => absurd hall hcurrent⟩
  · intro hfailed
    rw [houtcome] at hfailed ⊢
    split_ifs at hfailed ⊢ with hcurrent
    · exact absurd rfl hfailed
    · rfl
  · intro written world hrun hdistinct
    have hread : ∀ file ∈ sources { options with check := false } catalogue,
        world.files.read file.path = .ok file.bytes :=
      read_sources_of_run rfl hgathers hrun hdistinct
    constructor
    · intro path hpath
      obtain ⟨file, hfile, rfl⟩ := List.mem_map.mp hpath
      obtain ⟨hmem, hdiffers⟩ := List.mem_filter.mp hfile
      exact ⟨file.bytes, hread file hmem, by simpa using hdiffers⟩
    · intro path hpath hkept
      have hpaths : (sources options catalogue).map GeneratedFile.path =
          [options.dispatchPath, options.disassemblyPath] := rfl
      rw [← hpaths] at hpath
      obtain ⟨file, hmem, rfl⟩ := List.mem_map.mp hpath
      refine ⟨file.bytes, ?_, hread file hmem⟩
      by_contra hdiffers
      exact hkept (List.mem_map_of_mem (List.mem_filter.mpr ⟨hmem, by simpa using hdiffers⟩))

/-- The disassembly source is in place, the dispatch source is missing. -/
theorem run_check_exact_one_missing :
    let options : Options :=
      { sourceDirectory := ".", pattern := "load.rs", dispatchPath := "opcodes.rs",
        disassemblyPath := "names.rs", check := true }
    let files : FileSystem :=
      { entries := [(["home"], .directory),
          (["home", "names.rs"], .file (Utf8.encode (DisassemblySource.render .empty)))],
        workDirectory := ["home"] }
    let later := (run { options with check := false } { files }).2.files
    (run options { files }).1 = .error (.stale ["opcodes.rs"]) ∧
      (∃ bytes, later.read "opcodes.rs" = .ok bytes ∧ files.read "opcodes.rs" ≠ .ok bytes) ∧
      ∃ bytes, files.read "names.rs" = .ok bytes ∧ later.read "names.rs" = .ok bytes := by
  intro options files later
  have hfound : discover files "." "load.rs" = .ok [] := by decide +kernel
  have hgathers : Gathers files "." "load.rs" [] .empty := ⟨hfound, by simp, rfl⟩
  have hscan : (scanDirectory { files } "." "load.rs").1 = .ok .empty :=
    (scanDirectory_eq_ok_iff rfl).mpr ⟨[], hgathers⟩
  have hallowed : ¬ (Catalogue.empty.conflicts ≠ [] ∧ options.denyDuplicates = true) := by
    rintro ⟨hconflicts, -⟩
    exact hconflicts rfl
  have hcheck : options.check = true := rfl
  have hexact := run_check_exact hcheck hscan hallowed
  obtain ⟨hcurrent, hstale, hwriting⟩ := hexact
  have hmissing : files.read "opcodes.rs" = .error (.system .notFound) := by decide +kernel
  have hfile : files.fileAt? "names.rs" = some ["home", "names.rs"] := by decide +kernel
  have hnames : files.read "names.rs" = .ok (Utf8.encode (DisassemblySource.render .empty)) :=
    read_of_fileAt? rfl hfile rfl
  have hfiltered : ((sources options .empty).filter fun file =>
      files.read file.path ≠ .ok file.bytes).map GeneratedFile.path = ["opcodes.rs"] := by
    simp [sources, options, hmissing, hnames, GeneratedFile.bytes]
  rw [hfiltered] at hstale hwriting
  have hok : (run { options with check := false } { files }).1.isOk = true := by decide +kernel
  have hdispatch : later.fileAt? "opcodes.rs" = some ["home", "opcodes.rs"] := by decide +kernel
  have hdisassembly : later.fileAt? "names.rs" = some ["home", "names.rs"] := by decide +kernel
  have happart : ¬ SameFile later "opcodes.rs" "names.rs" := by
    rintro ⟨location, hfirst, hsecond⟩
    rw [hdispatch] at hfirst
    rw [hdisassembly] at hsecond
    exact absurd (Option.some.inj (hfirst.trans hsecond.symm)) (by decide)
  cases hresult : (run { options with check := false } { files }).1 with
  | error failure =>
      rw [hresult] at hok
      cases hok
  | ok written =>
      obtain ⟨hdiffers, hkept⟩ :=
        hwriting written _ (Prod.ext hresult rfl) (by simpa [options] using happart)
      refine ⟨hstale ?_, hdiffers "opcodes.rs" (by simp),
        hkept "names.rs" (by simp [options]) (by simp)⟩
      intro hcomplete
      have hread := hcurrent.mp hcomplete
        ⟨"opcodes.rs", DispatchSource.render .empty options.importPaths⟩
        (by simp [sources, options])
      rw [hmissing] at hread
      cases hread

end Generation

end OpcodeTables
