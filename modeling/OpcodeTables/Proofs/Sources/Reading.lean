import OpcodeTables.Proofs.Catalogue.Imports
import OpcodeTables.Proofs.Generation.Scanning

/-!
# Reading sources in their order

Sources are read all or not at all.  When all of them can be read, the catalogue holds of
every opcode what was said last, and it imports the module of every source, whether or
not anything was found there.  Otherwise the first source that cannot be read is named.
-/

namespace OpcodeTables.Sources

open History

/-- The annotations in a source, none if it cannot be read. -/
def sightingsAt (files : FileSystem) (path : String) : List Sighting :=
  match files.read path with
  | .ok bytes => (Annotated.scan (Utf8.decode bytes)).map fun found => ⟨found, path⟩
  | .error _ => []

/-- The annotations in some sources, in the order of the sources and of their texts. -/
def sightingsIn (files : FileSystem) (paths : List String) : List Sighting :=
  paths.flatMap (sightingsAt files)

variable {files : FileSystem} {paths : List String} {path : String} {world : World}
  {catalogue : Catalogue}

/-! ## What the sources say -/

theorem sightings_callsAt (files : FileSystem) (path : String) :
    sightings (callsAt files path) = sightingsAt files path := by
  unfold callsAt sightingsAt
  cases files.read path with
  | error error => rfl
  | ok bytes =>
      cases hstem : Path.stem? path with
      | none => simp [callsOf, hstem, sightings, Call.sightings]
      | some module => simp [callsOf, hstem, sightings, Call.sightings]

theorem sightings_flatMap_callsAt (files : FileSystem) (paths : List String) :
    sightings (paths.flatMap (callsAt files)) = sightingsIn files paths := by
  rw [sightings, List.flatMap_assoc]
  exact List.flatMap_congr fun path _ => sightings_callsAt files path

theorem modules_callsAt (hreadable : Readable files path) :
    modules (callsAt files path) = (Path.stem? path).toList := by
  obtain ⟨bytes, hread⟩ := hreadable
  rw [callsAt_of_read hread, callsOf]
  cases Path.stem? path with
  | none => rfl
  | some module => rfl

theorem modules_flatMap_callsAt (hreadable : ∀ path ∈ paths, Readable files path) :
    modules (paths.flatMap (callsAt files)) = paths.filterMap Path.stem? := by
  induction paths with
  | nil => rfl
  | cons path rest ih =>
      rw [List.forall_mem_cons] at hreadable
      have hpath := modules_callsAt hreadable.1
      have hrest := ih hreadable.2
      rw [modules] at hpath hrest
      rw [List.flatMap_cons, modules, List.filterMap_append, hpath, hrest]
      cases hstem : Path.stem? path with
      | none => simp [hstem]
      | some module => simp [hstem]

/-! ## All or nothing -/

theorem addPaths_of_firstUnread {error : FileError} (hlog : world.logFile = none)
    (hfirst : FirstUnread world.files paths path error) :
    (addPaths world catalogue paths).1 = .error (.file path error) := by
  obtain ⟨before, behind, rfl, hbefore, hread⟩ := hfirst
  induction before generalizing world catalogue with
  | nil => rw [List.nil_append, addPaths, hread]
  | cons first rest ih =>
      rw [List.forall_mem_cons] at hbefore
      obtain ⟨⟨bytes, hbytes⟩, hrest⟩ := hbefore
      obtain ⟨reported, hquiet, hfiles, hstep⟩ :=
        @addPaths_cons world catalogue first (rest ++ path :: behind) bytes hlog hbytes
      rw [← hfiles] at hrest hread
      rw [List.cons_append, hstep]
      exact ih hquiet hrest hread

theorem scanPaths_eq_ok_iff :
    (scanPaths { files } paths).1 = .ok catalogue ↔
      (∀ path ∈ paths, Readable files path) ∧
        catalogue = Catalogue.empty.performAll (paths.flatMap (callsAt files)) := by
  constructor
  · intro hscan
    exact addPaths_eq_ok rfl hscan
  · rintro ⟨hreadable, rfl⟩
    exact addPaths_of_readable rfl hreadable

theorem scanPaths_eq_error_iff {failure : Failure} :
    (scanPaths { files } paths).1 = .error failure ↔
      ∃ path error, FirstUnread files paths path error ∧ failure = .file path error := by
  constructor
  · intro hscan
    exact addPaths_eq_error rfl hscan
  · rintro ⟨path, error, hfirst, rfl⟩
    exact addPaths_of_firstUnread rfl hfirst

/-- Sources are read if and only if each of them can be, and else the first that cannot
is named.  The result holds the last annotation of every opcode with the path of its
source, and imports the sources by their stems, without reserved ones and repetitions.
-/
theorem scanPaths_complete (files : FileSystem) (paths : List String) :
    let outcome := (scanPaths { files } paths).1
    ((∃ catalogue, outcome = .ok catalogue) ↔
      ∀ path ∈ paths, ∃ bytes, files.read path = .ok bytes) ∧
    (∀ failure, outcome = .error failure ↔
      ∃ before path behind error, paths = before ++ path :: behind ∧
        (∀ earlier ∈ before, ∃ bytes, files.read earlier = .ok bytes) ∧
        files.read path = .error error ∧ failure = .file path error) ∧
    ∀ catalogue, outcome = .ok catalogue →
      (∀ space opcode, (catalogue.opcodes space).get? opcode =
        (((sightingsIn files paths).filter (Sighting.isAt space opcode)).getLast?).map
          Sighting.instruction) ∧
      catalogue.imports.modules =
        ((paths.filterMap Path.stem?).filter fun module =>
          !ImportList.isReserved module).eraseDups ∧
      catalogue.imports.modules.Nodup ∧
      ∀ module ∈ catalogue.imports.modules, ImportList.isReserved module = false := by
  intro outcome
  refine ⟨⟨?_, ?_⟩, fun failure => ⟨?_, ?_⟩, ?_⟩
  · rintro ⟨catalogue, hscan⟩
    exact (scanPaths_eq_ok_iff.mp hscan).1
  · intro hreadable
    exact ⟨_, scanPaths_eq_ok_iff.mpr ⟨hreadable, rfl⟩⟩
  · intro hscan
    obtain ⟨path, error, ⟨before, behind, hpaths, hbefore, hread⟩, hfailure⟩ :=
      scanPaths_eq_error_iff.mp hscan
    exact ⟨before, path, behind, error, hpaths, hbefore, hread, hfailure⟩
  · rintro ⟨before, path, behind, error, hpaths, hbefore, hread, hfailure⟩
    exact scanPaths_eq_error_iff.mpr
      ⟨path, error, ⟨before, behind, hpaths, hbefore, hread⟩, hfailure⟩
  · intro catalogue hscan
    obtain ⟨hreadable, rfl⟩ := scanPaths_eq_ok_iff.mp hscan
    have hreflects := Catalogue.performAll_reflects (paths.flatMap (callsAt files))
    rw [sightings_flatMap_callsAt] at hreflects
    have himports : (Catalogue.empty.performAll (paths.flatMap (callsAt files))).imports =
        (paths.filterMap Path.stem?).foldl ImportList.register ImportList.empty := by
      rw [Catalogue.imports_performAll, modules_flatMap_callsAt hreadable]
      rfl
    have hmodules := ImportList.modules_foldl_register (paths.filterMap Path.stem?)
    rw [himports]
    refine ⟨fun space opcode => ?_, hmodules, ImportList.nodup_foldl_register List.nodup_nil _, ?_⟩
    · rw [hreflects.slot, instructionsAt, List.getLast?_map]
    · intro module hmodule
      rw [hmodules, List.mem_eraseDups, List.mem_filter] at hmodule
      simpa using hmodule.2

end OpcodeTables.Sources
