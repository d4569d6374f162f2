import OpcodeTables.Proofs.Catalogue.History
import OpcodeTables.Sources

/-!
# Scanning the sources

Without a log file the scan changes no file.  It either reads every source that was
found, and then its catalogue is the result of two calls for each of them, or it
ends at the first one that cannot be read.
-/

namespace OpcodeTables

namespace Sources

/-- The calls that a source with some bytes makes. -/
def callsOf (path : String) (bytes : List UInt8) : List Call :=
  .scan (Utf8.decode bytes) path :: (Path.stem? path).toList.map .register

/-- The calls that a source makes, none if it cannot be read. -/
def callsAt (files : FileSystem) (path : String) : List Call :=
  match files.read path with
  | .ok bytes => callsOf path bytes
  | .error _ => []

def Readable (files : FileSystem) (path : String) : Prop :=
  ∃ bytes, files.read path = .ok bytes

/-- The path is the first one that cannot be read. -/
def FirstUnread (files : FileSystem) (paths : List String) (path : String)
    (error : FileError) : Prop :=
  ∃ before behind, paths = before ++ path :: behind ∧
    (∀ earlier ∈ before, Readable files earlier) ∧ files.read path = .error error

/-- What was found, all of it read, makes up the catalogue. -/
structure Gathers (files : FileSystem) (directory pattern : String) (paths : List String)
    (catalogue : Catalogue) : Prop where
  found : discover files directory pattern = .ok paths
  readable : ∀ path ∈ paths, Readable files path
  complete : catalogue = Catalogue.empty.performAll (paths.flatMap (callsAt files))

variable {files : FileSystem} {world : World} {catalogue : Catalogue} {path : String}
  {paths : List String} {bytes : List UInt8}

theorem FirstUnread.mem {error : FileError} (hfirst : FirstUnread files paths path error) :
    path ∈ paths := by
  obtain ⟨before, behind, rfl, -, -⟩ := hfirst
  simp

theorem FirstUnread.read_eq {error : FileError} (hfirst : FirstUnread files paths path error) :
    files.read path = .error error := by
  obtain ⟨before, behind, -, -, hread⟩ := hfirst
  exact hread

theorem FirstUnread.cons {error : FileError} {other : String}
    (hfirst : FirstUnread files paths path error) (hreadable : Readable files other) :
    FirstUnread files (other :: paths) path error := by
  obtain ⟨before, behind, rfl, hbefore, hread⟩ := hfirst
  exact ⟨other :: before, behind, rfl, List.forall_mem_cons.mpr ⟨hreadable, hbefore⟩, hread⟩

theorem callsAt_of_read (hread : files.read path = .ok bytes) :
    callsAt files path = callsOf path bytes := by
  rw [callsAt, hread]

theorem addSource_eq (catalogue : Catalogue) (path : String) (bytes : List UInt8) :
    addSource catalogue path (Annotated.scan (Utf8.decode bytes)) =
      catalogue.performAll (callsOf path bytes) := by
  unfold addSource callsOf
  cases Path.stem? path with
  | none => rfl
  | some module => rfl

/-! ## Reading one source after another -/

/-- One source that can be read. -/
theorem addPaths_cons (hlog : world.logFile = none) (hread : world.files.read path = .ok bytes) :
    ∃ reported : World, reported.logFile = none ∧ reported.files = world.files ∧
      addPaths world catalogue (path :: paths) =
        addPaths reported (catalogue.performAll (callsOf path bytes)) paths := by
  let events := sourceEvents catalogue path (Annotated.scan (Utf8.decode bytes))
  have hreport := World.reportAll_of_logFile_eq_none hlog events
  refine ⟨world.reportAll events, by rw [hreport]; exact hlog, by rw [hreport], ?_⟩
  rw [addPaths, hread, ← addSource_eq]

theorem addPaths_quiet (hlog : world.logFile = none) (catalogue : Catalogue)
    (paths : List String) :
    (addPaths world catalogue paths).2.logFile = none ∧
      (addPaths world catalogue paths).2.files = world.files := by
  induction paths generalizing world catalogue with
  | nil => exact ⟨hlog, rfl⟩
  | cons path rest ih =>
      cases hread : world.files.read path with
      | error error =>
          rw [addPaths, hread]
          exact ⟨hlog, rfl⟩
      | ok bytes =>
          obtain ⟨reported, hquiet, hfiles, hstep⟩ := addPaths_cons hlog hread
          rw [hstep, ← hfiles]
          exact ih hquiet _

/-- If the scan succeeds every source was read, in its order. -/
theorem addPaths_eq_ok (hlog : world.logFile = none) {result : Catalogue}
    (hadd : (addPaths world catalogue paths).1 = .ok result) :
    (∀ path ∈ paths, Readable world.files path) ∧
      result = catalogue.performAll (paths.flatMap (callsAt world.files)) := by
  induction paths generalizing world catalogue with
  | nil =>
      cases hadd
      exact ⟨by simp, rfl⟩
  | cons path rest ih =>
      cases hread : world.files.read path with
      | error error =>
          rw [addPaths, hread] at hadd
          cases hadd
      | ok bytes =>
          obtain ⟨reported, hquiet, hfiles, hstep⟩ := addPaths_cons hlog hread
          rw [hstep] at hadd
          obtain ⟨hreadable, hresult⟩ := ih hquiet hadd
          rw [hfiles] at hreadable hresult
          refine ⟨List.forall_mem_cons.mpr ⟨⟨bytes, hread⟩, hreadable⟩, ?_⟩
          rw [hresult, List.flatMap_cons, callsAt_of_read hread, Catalogue.performAll_append]

/-- If it fails it names the first source that cannot be read. -/
theorem addPaths_eq_error (hlog : world.logFile = none) {failure : Failure}
    (hadd : (addPaths world catalogue paths).1 = .error failure) :
    ∃ path error, FirstUnread world.files paths path error ∧ failure = .file path error := by
  induction paths generalizing world catalogue with
  | nil => cases hadd
  | cons path rest ih =>
      cases hread : world.files.read path with
      | error error =>
          rw [addPaths, hread] at hadd
          cases hadd
          exact ⟨path, error, ⟨[], rest, rfl, by simp, hread⟩, rfl⟩
      | ok bytes =>
          obtain ⟨reported, hquiet, hfiles, hstep⟩ := addPaths_cons hlog hread
          rw [hstep] at hadd
          obtain ⟨other, error, hfirst, hfailure⟩ := ih hquiet hadd
          rw [hfiles] at hfirst
          exact ⟨other, error, hfirst.cons ⟨bytes, hread⟩, hfailure⟩

/-- Where every source can be read the scan succeeds. -/
theorem addPaths_of_readable (hlog : world.logFile = none)
    (hreadable : ∀ path ∈ paths, Readable world.files path) :
    (addPaths world catalogue paths).1 =
      .ok (catalogue.performAll (paths.flatMap (callsAt world.files))) := by
  cases hadd : (addPaths world catalogue paths).1 with
  | ok result => rw [(addPaths_eq_ok hlog hadd).2]
  | error failure =>
      obtain ⟨path, error, hfirst, -⟩ := addPaths_eq_error hlog hadd
      obtain ⟨bytes, hbytes⟩ := hreadable path hfirst.mem
      rw [hfirst.read_eq] at hbytes
      cases hbytes

/-! ## Scanning a directory -/

variable {directory pattern : String}

theorem Gathers.read_ne_error (hgathers : Gathers files directory pattern paths catalogue)
    {others : List String} (hfound : discover files directory pattern = .ok others)
    (hpath : path ∈ others) {error : FileError} : files.read path ≠ .error error := by
  intro hread
  rw [hgathers.found] at hfound
  obtain rfl := Except.ok.inj hfound
  obtain ⟨bytes, hbytes⟩ := hgathers.readable path hpath
  rw [hread] at hbytes
  cases hbytes

theorem matchesOf_eq_error {found : List Glob.Found} {failure : Failure}
    (hfound : matchesOf found = .error failure) : ∃ error, failure = .walk error := by
  induction found with
  | nil => cases hfound
  | cons first rest ih =>
      cases first with
      | error error =>
          cases hfound
          exact ⟨error, rfl⟩
      | ok path =>
          cases hrest : matchesOf rest with
          | ok paths => simp [matchesOf, hrest, Except.map] at hfound
          | error other =>
              simp only [matchesOf, hrest, Except.map, Except.error.injEq] at hfound
              exact ih (hfound ▸ hrest)

theorem discover_eq_error {failure : Failure}
    (hfound : discover files directory pattern = .error failure) :
    (∃ error, failure = .pattern error) ∨ ∃ error, failure = .walk error := by
  unfold discover at hfound
  cases hwalk : Glob.walk files (Path.join (Glob.escape directory) pattern) with
  | error error =>
      rw [hwalk] at hfound
      cases hfound
      exact .inl ⟨error, rfl⟩
  | ok found =>
      rw [hwalk] at hfound
      change (matchesOf found >>= fun paths =>
        pure (paths.filter fun path => !files.isDirectory path)) = .error failure at hfound
      cases hmatches : matchesOf found with
      | error other =>
          obtain ⟨error, rfl⟩ := matchesOf_eq_error hmatches
          rw [hmatches] at hfound
          cases hfound
          exact .inr ⟨error, rfl⟩
      | ok paths =>
          rw [hmatches] at hfound
          cases hfound

theorem scanDirectory_quiet (hlog : world.logFile = none) (directory pattern : String) :
    (scanDirectory world directory pattern).2.logFile = none ∧
      (scanDirectory world directory pattern).2.files = world.files := by
  unfold scanDirectory
  split
  · exact ⟨hlog, rfl⟩
  · next paths hfound =>
      have hquiet := World.logFile_report hlog (foundEvent directory pattern paths.length)
      obtain ⟨hscanned, hfiles⟩ := addPaths_quiet hquiet .empty paths
      rw [World.files_report hlog] at hfiles
      exact ⟨hscanned, hfiles⟩

/-- A scan of a directory succeeds if what it finds can be gathered. -/
theorem scanDirectory_eq_ok_iff (hlog : world.logFile = none) :
    (scanDirectory world directory pattern).1 = .ok catalogue ↔
      ∃ paths, Gathers world.files directory pattern paths catalogue := by
  unfold scanDirectory
  constructor
  · intro hscan
    split at hscan
    · cases hscan
    · next paths hfound =>
        have hquiet := World.logFile_report hlog (foundEvent directory pattern paths.length)
        obtain ⟨hreadable, hcomplete⟩ := addPaths_eq_ok hquiet hscan
        rw [World.files_report hlog] at hreadable hcomplete
        exact ⟨paths, hfound, hreadable, hcomplete⟩
  · intro hgathers
    obtain ⟨paths, hfound, hreadable, rfl⟩ := hgathers
    have hquiet := World.logFile_report hlog (foundEvent directory pattern paths.length)
    rw [hfound]
    simp only [scanPaths]
    rw [addPaths_of_readable hquiet (by rwa [World.files_report hlog]), World.files_report hlog]

theorem scanDirectory_eq_error (hlog : world.logFile = none) {failure : Failure}
    (hscan : (scanDirectory world directory pattern).1 = .error failure) :
    discover world.files directory pattern = .error failure ∨
      ∃ paths, discover world.files directory pattern = .ok paths ∧
        ∃ path ∈ paths, ∃ error, world.files.read path = .error error ∧
          failure = .file path error := by
  unfold scanDirectory at hscan
  split at hscan
  · next refused hfound =>
      cases hscan
      exact .inl hfound
  · next paths hfound =>
      have hquiet := World.logFile_report hlog (foundEvent directory pattern paths.length)
      obtain ⟨path, error, hfirst, hfailure⟩ := addPaths_eq_error hquiet hscan
      rw [World.files_report hlog] at hfirst
      exact .inr ⟨paths, hfound, path, hfirst.mem, error, hfirst.read_eq, hfailure⟩

end Sources

end OpcodeTables
