import OpcodeTables.Generation
import OpcodeTables.Proofs.Generation.Progress
import OpcodeTables.Proofs.Generation.Scanning

/-!
# How a run ends

`Exit` has one rule for each way in which a run can end, with what the run has found
out by then and with the file system that it leaves.  All exits but the last two come
before the first change to the file system; a run that fails later has written the
files in front of the one that failed, and has made directories on its way at most.
-/

namespace OpcodeTables

open FileSystem GeneratedFile Sources

namespace Generation

/-- All that a run writes, in this order. -/
def outputs (options : Options) (catalogue : Catalogue) : List GeneratedFile :=
  sources options catalogue ++ (report? options catalogue).toList

/-- The run has to fail for conflicts. -/
def Denied (options : Options) (catalogue : Catalogue) : Prop :=
  catalogue.conflicts ≠ [] ∧ options.denyDuplicates = true

/-- The ways in which a run ends, each with its result and the files that it leaves. -/
inductive Exit (options : Options) (files : FileSystem) :
    Except Failure Catalogue → FileSystem → Prop where
  | undiscovered {failure : Failure}
      (hfound : discover files options.sourceDirectory options.pattern = .error failure) :
      Exit options files (.error failure) files
  | unread {paths : List String} {path : String} {error : FileError}
      (hfound : discover files options.sourceDirectory options.pattern = .ok paths)
      (hpath : path ∈ paths) (hread : files.read path = .error error) :
      Exit options files (.error (.file path error)) files
  | denied {paths : List String} {catalogue : Catalogue}
      (hgathers : Gathers files options.sourceDirectory options.pattern paths catalogue)
      (hdenied : Denied options catalogue) :
      Exit options files (.error (.duplicates catalogue.conflicts)) files
  | stale {paths : List String} {catalogue : Catalogue}
      (hgathers : Gathers files options.sourceDirectory options.pattern paths catalogue)
      (hallowed : ¬ Denied options catalogue) (hcheck : options.check = true) :
      Exit options files (.error (.stale (stalePaths (sources options catalogue) files))) files
  | current {paths : List String} {catalogue : Catalogue}
      (hgathers : Gathers files options.sourceDirectory options.pattern paths catalogue)
      (hallowed : ¬ Denied options catalogue) (hcheck : options.check = true)
      (hcurrent : ∀ file ∈ sources options catalogue, isCurrent files file = true) :
      Exit options files (.ok catalogue) files
  | unwritten {paths : List String} {catalogue : Catalogue}
      {written untouched : List GeneratedFile} {failing : GeneratedFile}
      {places : List Location} {middle later : FileSystem} {path : String} {error : FileError}
      (hgathers : Gathers files options.sourceDirectory options.pattern paths catalogue)
      (hallowed : ¬ Denied options catalogue) (hcheck : options.check = false)
      (houtputs : outputs options catalogue = written ++ failing :: untouched)
      (hwritten : WrittenAll written places files middle)
      (hroom : MakesRoom failing.path middle later)
      (hpath : path = failing.path ∨ directory? failing.path = some path) :
      Exit options files (.error (.file path error)) later
  | written {paths : List String} {catalogue : Catalogue} {places : List Location}
      {later : FileSystem}
      (hgathers : Gathers files options.sourceDirectory options.pattern paths catalogue)
      (hallowed : ¬ Denied options catalogue) (hcheck : options.check = false)
      (hwritten : WrittenAll (outputs options catalogue) places files later) :
      Exit options files (.ok catalogue) later

variable {options : Options} {files : FileSystem} {catalogue : Catalogue} {paths : List String}
  {failure : Failure}

/-! ## The run behind the scan -/

theorem scan_eq (hscan :
    (scanDirectory { files } options.sourceDirectory options.pattern).1 = .ok catalogue) :
    ∃ world : World, world.files = files ∧ world.logFile = none ∧
      run options { files } = finish options catalogue world := by
  have hquiet : ({ files } : World).logFile = none := rfl
  obtain ⟨hlog, hfiles⟩ := scanDirectory_quiet hquiet options.sourceDirectory options.pattern
  unfold run
  cases hwhole : scanDirectory { files } options.sourceDirectory options.pattern with
  | mk result world =>
      rw [hwhole] at hscan hlog hfiles
      cases hscan
      exact ⟨world, hfiles, hlog, rfl⟩

theorem run_of_unscanned (hscan :
    (scanDirectory { files } options.sourceDirectory options.pattern).1 = .error failure) :
    (run options { files }).1 = .error failure ∧ (run options { files }).2.files = files := by
  have hquiet : ({ files } : World).logFile = none := rfl
  obtain ⟨-, hfiles⟩ := scanDirectory_quiet hquiet options.sourceDirectory options.pattern
  unfold run
  cases hwhole : scanDirectory { files } options.sourceDirectory options.pattern with
  | mk result world =>
      rw [hwhole] at hscan hfiles
      cases hscan
      exact ⟨rfl, hfiles⟩

theorem run_of_denied
    (hgathers : Gathers files options.sourceDirectory options.pattern paths catalogue)
    (hdenied : Denied options catalogue) :
    (run options { files }).1 = .error (.duplicates catalogue.conflicts) ∧
      (run options { files }).2.files = files := by
  obtain ⟨world, hfiles, hlog, hrun⟩ :=
    scan_eq ((scanDirectory_eq_ok_iff rfl).mpr ⟨paths, hgathers⟩)
  unfold Denied at hdenied
  rw [hrun, finish, if_pos hdenied]
  exact ⟨rfl, (World.files_report hlog _).trans hfiles⟩

/-- The world in which a run begins to deliver. -/
def announced (catalogue : Catalogue) (world : World) : World :=
  if catalogue.conflicts = [] then world.report (foundEvent catalogue)
  else (world.report (foundEvent catalogue)).report (duplicatesEvent catalogue.conflicts.length)

theorem announced_quiet {world : World} (hlog : world.logFile = none) (catalogue : Catalogue) :
    (announced catalogue world).logFile = none ∧
      (announced catalogue world).files = world.files := by
  have hfound := World.logFile_report hlog (foundEvent catalogue)
  have hfiles := World.files_report hlog (foundEvent catalogue)
  unfold announced
  split
  · exact ⟨hfound, hfiles⟩
  · exact ⟨World.logFile_report hfound _, (World.files_report hfound _).trans hfiles⟩

theorem finish_of_allowed (hallowed : ¬ Denied options catalogue) (world : World) :
    finish options catalogue world =
      ((deliver options catalogue (announced catalogue world)).1.map (fun _ => catalogue),
        (deliver options catalogue (announced catalogue world)).2) := by
  unfold Denied at hallowed
  rw [finish, if_neg hallowed]
  cases hdeliver : deliver options catalogue (announced catalogue world) with
  | mk result after =>
      unfold announced at hdeliver
      simp only [hdeliver]
      cases result <;> rfl

theorem run_of_gathers
    (hgathers : Gathers files options.sourceDirectory options.pattern paths catalogue)
    (hallowed : ¬ Denied options catalogue) :
    ∃ world : World, world.files = files ∧ world.logFile = none ∧
      (run options { files }).1 = (deliver options catalogue world).1.map (fun _ => catalogue) ∧
      (run options { files }).2 = (deliver options catalogue world).2 := by
  obtain ⟨scanned, hfiles, hlog, hrun⟩ :=
    scan_eq ((scanDirectory_eq_ok_iff rfl).mpr ⟨paths, hgathers⟩)
  obtain ⟨hquiet, hsame⟩ := announced_quiet hlog catalogue
  rw [hrun, finish_of_allowed hallowed]
  exact ⟨announced catalogue scanned, hsame.trans hfiles, hquiet, rfl, rfl⟩

/-! ## The exits -/

theorem deliver_exit
    (hgathers : Gathers files options.sourceDirectory options.pattern paths catalogue)
    (hallowed : ¬ Denied options catalogue) :
    Exit options files (run options { files }).1 (run options { files }).2.files := by
  obtain ⟨world, rfl, hlog, hresult, hafter⟩ := run_of_gathers hgathers hallowed
  rw [hresult, hafter]
  cases hcheck : options.check with
  | true =>
      have hdeliver : deliver options catalogue world =
          checkAll (sources options catalogue) world := by
        rw [deliver, if_pos hcheck]
      rw [hdeliver, checkAll_files hlog]
      cases hdone : (checkAll (sources options catalogue) world).1 with
      | ok => exact .current hgathers hallowed hcheck (checkAll_eq_ok_iff.mp hdone)
      | error failure =>
          obtain rfl := checkAll_eq_error hdone
          exact .stale hgathers hallowed hcheck
  | false =>
      have hdeliver : deliver options catalogue world =
          writeAll (outputs options catalogue) world := by
        rw [deliver, if_neg (by simp [hcheck])]
        rfl
      rw [hdeliver]
      cases hdone : writeAll (outputs options catalogue) world with
      | mk result after =>
          cases result with
          | ok => exact .written hgathers hallowed hcheck (writeAll_written hlog hdone)
          | error failure =>
              obtain ⟨written, failing, untouched, middle, houtputs, hwritten, hroom, path,
                error, rfl, hpath⟩ := writeAll_failed hlog hdone
              exact .unwritten hgathers hallowed hcheck houtputs hwritten hroom hpath

/-- Every run has one of these exits. -/
theorem run_exit (options : Options) (files : FileSystem) :
    Exit options files (run options { files }).1 (run options { files }).2.files := by
  cases hscan : (scanDirectory { files } options.sourceDirectory options.pattern).1 with
  | error failure =>
      obtain ⟨hresult, hfiles⟩ := run_of_unscanned hscan
      rw [hresult, hfiles]
      rcases scanDirectory_eq_error rfl hscan with hfound | hunread
      · exact .undiscovered hfound
      · obtain ⟨paths, hfound, path, hpath, error, hread, rfl⟩ := hunread
        exact .unread hfound hpath hread
  | ok catalogue =>
      obtain ⟨paths, hgathers⟩ := (scanDirectory_eq_ok_iff rfl).mp hscan
      by_cases hdenied : Denied options catalogue
      · obtain ⟨hresult, hfiles⟩ := run_of_denied hgathers hdenied
        rw [hresult, hfiles]
        exact .denied hgathers hdenied
      · exact deliver_exit hgathers hdenied

/-- A run fails for duplicates if it has gathered conflicts and denies them. -/
theorem run_eq_duplicates_iff {conflicts : List Conflict} :
    (run options { files }).1 = .error (.duplicates conflicts) ↔
      ∃ paths catalogue,
        Gathers files options.sourceDirectory options.pattern paths catalogue ∧
          Denied options catalogue ∧ conflicts = catalogue.conflicts := by
  constructor
  · intro hfailed
    have hexit := run_exit options files
    rw [hfailed] at hexit
    generalize (run options { files }).2.files = later at hexit
    cases hexit with
    | undiscovered hfound =>
        rcases discover_eq_error hfound with ⟨error, herror⟩ | ⟨error, herror⟩ <;> cases herror
    | denied hgathers hdenied => exact ⟨_, _, hgathers, hdenied, rfl⟩
  · rintro ⟨paths, catalogue, hgathers, hdenied, rfl⟩
    exact (run_of_denied hgathers hdenied).1

end Generation

end OpcodeTables
