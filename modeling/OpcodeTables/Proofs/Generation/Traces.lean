import OpcodeTables.Proofs.Generation.Exits

/-!
# What a failed run leaves behind

A run that fails before it writes, or that only checks, leaves the file system as it
was.  A run that fails while it writes has read every source before, and of its
outputs exactly those in front of the failing one are written.  Besides these files
there are new directories at most, each on the way to one of them or to the failing one.
-/

namespace OpcodeTables.Generation

open FileSystem GeneratedFile Sources

/-- The failure is met before anything is written.  A failure of a file is one of
reading a source. -/
def BeforeWriting (options : Options) (files : FileSystem) : Failure → Prop
  | .file path error => ∃ paths,
      discover files options.sourceDirectory options.pattern = .ok paths ∧ path ∈ paths ∧
        files.read path = .error error
  | .pattern _ => True
  | .walk _ => True
  | .duplicates _ => True
  | .stale _ => True
  | .report _ => False

variable {options : Options} {files later : FileSystem} {failure : Failure}

theorem Exit.files_of_check {result : Except Failure Catalogue}
    (hexit : Exit options files result later) (hcheck : options.check = true) :
    later = files := by
  cases hexit with
  | undiscovered | unread | denied | stale | current => rfl
  | unwritten _ _ hwrites => rw [hwrites] at hcheck; cases hcheck
  | written _ _ hwrites => rw [hwrites] at hcheck; cases hcheck

/-- Such a failure leaves the files as they were. -/
theorem Exit.files_of_beforeWriting (hexit : Exit options files (.error failure) later)
    (hbefore : BeforeWriting options files failure) : later = files := by
  cases hexit with
  | undiscovered | unread | denied | stale => rfl
  | unwritten hgathers =>
      obtain ⟨paths, hfound, hpath, hread⟩ := hbefore
      exact absurd hread (hgathers.read_ne_error hfound hpath)

/-- The outputs in front of one were written, in their order and with their full contents.
For that one only directories on its way were made, and it or its directory is named by
the failure. -/
def WrittenUpTo (options : Options) (files later : FileSystem) (failure : Failure) : Prop :=
  ∃ paths catalogue written failing untouched places middle path error,
    Gathers files options.sourceDirectory options.pattern paths catalogue ∧
    outputs options catalogue = written ++ failing :: untouched ∧
    WrittenAll written places files middle ∧ MakesRoom failing.path middle later ∧
    failure = .file path error ∧ (path = failing.path ∨ directory? failing.path = some path)

/-- Any other failure comes from an output that could not be written. -/
theorem Exit.writtenUpTo (hexit : Exit options files (.error failure) later)
    (hwriting : ¬ BeforeWriting options files failure) :
    options.check = false ∧ WrittenUpTo options files later failure := by
  cases hexit with
  | undiscovered hfound =>
      rcases discover_eq_error hfound with ⟨error, rfl⟩ | ⟨error, rfl⟩
      · exact absurd trivial hwriting
      · exact absurd trivial hwriting
  | unread hfound hpath hread => exact absurd ⟨_, hfound, hpath, hread⟩ hwriting
  | denied => exact absurd trivial hwriting
  | stale => exact absurd trivial hwriting
  | unwritten hgathers _ hcheck houtputs hwritten hroom hpath =>
      exact ⟨hcheck, _, _, _, _, _, _, _, _, _, hgathers, houtputs, hwritten, hroom, rfl, hpath⟩

/-- A checking run changes no file, and neither does one that fails before it writes.  A
run that fails otherwise has read all sources and written the outputs in front of the
failing one, and besides it has made directories on the way to them at most. -/
theorem run_traces (options : Options) (files : FileSystem) :
    let outcome := run options { files }
    (options.check = true → outcome.2.files = files) ∧
    (∀ failure, outcome.1 = .error failure → BeforeWriting options files failure →
      outcome.2.files = files) ∧
    ∀ failure, outcome.1 = .error failure → ¬ BeforeWriting options files failure →
      options.check = false ∧ WrittenUpTo options files outcome.2.files failure := by
  intro outcome
  have hexit : Exit options files outcome.1 outcome.2.files := run_exit options files
  refine ⟨hexit.files_of_check, ?_, ?_⟩
  · intro failure hfailure hbefore
    rw [hfailure] at hexit
    exact hexit.files_of_beforeWriting hbefore
  · intro failure hfailure hwriting
    rw [hfailure] at hexit
    exact hexit.writtenUpTo hwriting

/-- A directory stands where the disassembly source belongs. -/
theorem run_traces_directory_in_the_way :
    let options : Options :=
      { sourceDirectory := ".", pattern := "load.rs", dispatchPath := "opcodes.rs",
        disassemblyPath := "out" }
    let files : FileSystem :=
      { entries := [(["home"], .directory), (["home", "out"], .directory)],
        workDirectory := ["home"] }
    let failure := Failure.file "out" (.system .isADirectory)
    (run options { files }).1 = .error failure ∧ ¬ BeforeWriting options files failure ∧
      WrittenUpTo options files (run options { files }).2.files failure := by
  intro options files failure
  have hrun : (run options { files }).1 = .error failure := by decide +kernel
  have hfound : discover files "." "load.rs" = .ok [] := by decide +kernel
  have hwriting : ¬ BeforeWriting options files failure := by
    rintro ⟨paths, hpaths, hmem, -⟩
    have hsame : Except.ok [] = Except.ok paths := hfound.symm.trans hpaths
    obtain rfl := Except.ok.inj hsame
    exact List.not_mem_nil hmem
  exact ⟨hrun, hwriting, ((run_traces options files).2.2 failure hrun hwriting).2⟩

end OpcodeTables.Generation
