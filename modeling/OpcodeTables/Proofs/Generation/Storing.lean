import OpcodeTables.GeneratedFile
import OpcodeTables.Proofs.FileSystem.Directories

/-!
# Storing generated files

A generated file is stored with its full contents, or it is not stored and only
directories on its way were made.  A file that is in place is current, and to write it
again changes nothing.
-/

namespace OpcodeTables

open FileSystem

namespace GeneratedFile

/-- The directory that is to hold the file exists. -/
def HasRoom (files : FileSystem) (path : String) : Prop :=
  ∀ directory, directory? path = some directory → files.isDirectory directory = true

/-- The file is at its location with its full contents. -/
structure InPlace (files : FileSystem) (file : GeneratedFile) (location : Location) : Prop where
  room : HasRoom files file.path
  target : files.writeTarget file.path = .ok location
  contents : files.node? location = some (.file file.bytes)

/-- A directory on the way to a file: one of the paths above the file's leads to it. -/
def LiesAbove (files : FileSystem) (path : String) (location : Location) : Prop :=
  ∃ directory above, directory? path = some directory ∧ above ∈ Path.ancestors directory ∧
    files.status above = .ok (location, .directory)

/-- Directories were made on the way to a file, and that is all. -/
structure MakesRoom (path : String) (files later : FileSystem) : Prop
    extends AddsDirectories files later where
  above {location : Location} (hnone : files.node? location = none)
    (hnew : later.node? location ≠ none) : LiesAbove later path location

/-- The location to which the path of a file leads when there is room for it, if the file
can be written. -/
def target? (file : GeneratedFile) (files : FileSystem) : Option Location :=
  match makeRoom files file.path with
  | (.error _, _) => none
  | (.ok (), roomy) => (roomy.writeTarget file.path).toOption

/-- The file was put in its place; besides, only directories on its way were made. -/
structure Written (file : GeneratedFile) (location : Location) (files later : FileSystem) :
    Prop where
  inPlace : InPlace later file location
  grows : Grows files later
  elsewhere {other : Location} (hother : other ≠ location) : KeptAt files later other
  above {other : Location} (hother : other ≠ location) (hnone : files.node? other = none)
    (hnew : later.node? other ≠ none) : LiesAbove later file.path other

/-- The files were written in their order, each to the location in its place. -/
inductive WrittenAll : List GeneratedFile → List Location → FileSystem → FileSystem → Prop where
  | nil {files : FileSystem} : WrittenAll [] [] files files
  | cons {file : GeneratedFile} {rest : List GeneratedFile} {location : Location}
      {locations : List Location} {files middle later : FileSystem}
      (hfirst : Written file location files middle)
      (hrest : WrittenAll rest locations middle later) :
      WrittenAll (file :: rest) (location :: locations) files later

variable {file : GeneratedFile} {generated : List GeneratedFile} {locations : List Location}
  {files later : FileSystem} {world after : World} {path : String} {failure : Failure}
  {location : Location}

/-! ## Room for a file -/

theorem HasRoom.grows (hroom : HasRoom files path) (hgrows : Grows files later) :
    HasRoom later path :=
  fun directory hdirectory => hgrows.isDirectory (hroom directory hdirectory)

theorem LiesAbove.grows (habove : LiesAbove files path location) (hgrows : Grows files later) :
    LiesAbove later path location := by
  obtain ⟨directory, above, hdirectory, hmem, hstatus⟩ := habove
  exact ⟨directory, above, hdirectory, hmem, hgrows.status_directory hstatus⟩

theorem directory?_eq_some {directory : String} (hdirectory : directory? path = some directory) :
    Path.parent? path = some directory ∧ directory ≠ "" := by
  obtain ⟨hparent, hne⟩ := Option.filter_eq_some_iff.mp hdirectory
  exact ⟨hparent, by simpa using hne⟩

/-- Making room makes directories on the way to the file, whether it fails or not. -/
theorem makesRoom_makeRoom (files : FileSystem) (path : String) :
    MakesRoom path files (makeRoom files path).2 := by
  cases hdirectory : directory? path with
  | none =>
      have hsame : makeRoom files path = (.ok (), files) := by simp only [makeRoom, hdirectory]
      rw [hsame]
      exact { toAddsDirectories := .refl files, above := fun hnone hnew => absurd hnone hnew }
  | some directory =>
      have hmade : (makeRoom files path).2 =
          (files.makeDirectoriesAlong (Path.ancestors directory)).2 := by
        simp only [makeRoom, hdirectory, makeDirectories]
        split
        · next error partly hrefused => rw [hrefused]
        · next made hmade => rw [hmade]
      obtain ⟨hparent, -⟩ := directory?_eq_some hdirectory
      have htrimmed : ∀ above ∈ Path.ancestors directory, Path.IsTrimmed above :=
        fun above => Path.isTrimmed_of_mem_ancestors hparent
      rw [hmade]
      refine { toAddsDirectories := addsDirectories_makeDirectoriesAlong _ _, above := ?_ }
      intro location hnone hnew
      obtain ⟨above, hmem, hstatus⟩ := status_of_makeDirectoriesAlong htrimmed hnone hnew
      exact ⟨directory, above, hdirectory, hmem, hstatus⟩

theorem makeRoom_hasRoom (hroom : makeRoom files path = (.ok (), later)) : HasRoom later path := by
  intro directory hdirectory
  obtain ⟨hparent, hne⟩ := directory?_eq_some hdirectory
  rcases Path.isTrimmed_parent? hparent with hempty | rfl | hslash
  · exact absurd hempty hne
  · exact isDirectory_root later
  simp only [makeRoom, hdirectory, makeDirectories] at hroom
  split at hroom
  · cases hroom
  · next made hmade =>
      cases hroom
      exact isDirectory_makeDirectoriesAlong hne hslash hmade

theorem makeRoom_eq_error (hroom : makeRoom files path = (.error failure, later)) :
    ∃ directory error, directory? path = some directory ∧ failure = .file directory error := by
  unfold makeRoom at hroom
  cases hdirectory : directory? path with
  | none =>
      rw [hdirectory] at hroom
      cases hroom
  | some directory =>
      simp only [hdirectory] at hroom
      split at hroom
      · next error partly hmade =>
          cases hroom
          exact ⟨directory, error, rfl, rfl⟩
      · cases hroom

/-- Where there is room already none is made. -/
theorem HasRoom.makeRoom (hroom : HasRoom files path) :
    makeRoom files path = (.ok (), files) := by
  unfold GeneratedFile.makeRoom
  cases hdirectory : directory? path with
  | none => rfl
  | some directory =>
      obtain ⟨-, hne⟩ := directory?_eq_some hdirectory
      have hmade : files.makeDirectories directory = (.ok (), files) :=
        makeDirectoriesAlong_of_isDirectory hne (hroom directory hdirectory)
      simp only [hmade]

/-! ## One file -/

theorem write_of_target? (htarget : file.target? world.files = some location) :
    ∃ roomy, makeRoom world.files file.path = (.ok (), roomy) ∧
      roomy.writeTarget file.path = .ok location ∧
      file.write world = (.ok (),
        { world with files := roomy.put location (.file file.bytes) }.report
          file.writtenEvent) := by
  unfold target? at htarget
  split at htarget
  · cases htarget
  · next roomy hroom =>
      cases hplace : roomy.writeTarget file.path with
      | error error =>
          rw [hplace] at htarget
          cases htarget
      | ok place =>
          rw [hplace] at htarget
          cases htarget
          have hwritten : roomy.write file.path file.bytes =
              .ok (roomy.put location (.file file.bytes)) :=
            write_eq_ok_iff.mpr ⟨location, hplace, rfl⟩
          refine ⟨roomy, hroom, hplace, ?_⟩
          rw [write, hroom]
          simp only [hwritten]

/-- It or the directory that is to hold it is named. -/
theorem write_of_target?_eq_none (htarget : file.target? world.files = none) :
    ∃ path error, file.write world =
        (.error (.file path error), { world with files := (makeRoom world.files file.path).2 }) ∧
      (path = file.path ∨ directory? file.path = some path) := by
  unfold target? at htarget
  split at htarget
  · next failure partly hroom =>
      obtain ⟨directory, error, hdirectory, rfl⟩ := makeRoom_eq_error hroom
      refine ⟨directory, error, ?_, .inr hdirectory⟩
      rw [write, hroom]
  · next roomy hroom =>
      cases hplace : roomy.writeTarget file.path with
      | ok place =>
          rw [hplace] at htarget
          cases htarget
      | error error =>
          have hrefused : roomy.write file.path file.bytes = .error error := by
            rw [FileSystem.write, hplace]
            rfl
          refine ⟨file.path, error, ?_, .inl rfl⟩
          rw [write, hroom]
          simp only [hrefused]

/-- A file that has a target is written to it. -/
theorem write_written (hlog : world.logFile = none)
    (htarget : file.target? world.files = some location) :
    ∃ after, file.write world = (.ok (), after) ∧ after.logFile = none ∧
      Written file location world.files after.files := by
  obtain ⟨roomy, hroom, hplace, hwrite⟩ := write_of_target? htarget
  have hmakes := makesRoom_makeRoom world.files file.path
  rw [hroom] at hmakes
  have hne := writeTarget_ne_nil hplace
  have hgrows := grows_put_writeTarget hplace file.bytes
  have hquiet : ({ world with files := roomy.put location (.file file.bytes) } :
      World).logFile = none := hlog
  refine ⟨_, hwrite, World.logFile_report hquiet _, ?_⟩
  rw [World.files_report hquiet]
  exact {
    inPlace := {
      room := (makeRoom_hasRoom hroom).grows hgrows
      target := writeTarget_put hplace file.bytes
      contents := node?_put_self hne _ }
    grows := hmakes.grows.trans hgrows
    elsewhere := fun hother =>
      (hmakes.kept _).trans (.inl (node?_put_of_ne hne (Ne.symm hother) _))
    above := fun hother hnone hnew => by
      rw [node?_put_of_ne hne (Ne.symm hother)] at hnew
      exact (hmakes.above hnone hnew).grows hgrows }

/-! ## Files that are in place -/

theorem InPlace.status (hplace : InPlace files file location) :
    files.status file.path = .ok (location, .file file.bytes) :=
  status_of_writeTarget hplace.target hplace.contents

theorem InPlace.fileAt? (hplace : InPlace files file location) :
    files.fileAt? file.path = some location :=
  fileAt?_eq_some_iff.mpr ⟨file.bytes, hplace.status⟩

theorem InPlace.isCurrent (hplace : InPlace files file location) :
    isCurrent files file = true := by
  rw [GeneratedFile.isCurrent, read_of_writeTarget hplace.target hplace.contents]
  exact beq_self_eq_true _

theorem InPlace.grows (hplace : InPlace files file location)
    (hgrows : Grows files later) (hkept : KeptAt files later location) :
    InPlace later file location := by
  have hcontents := hkept.node?_eq_some hplace.contents
  have htarget := hgrows.writeTarget hplace.target (by rw [hcontents]; simp)
  exact ⟨hplace.room.grows hgrows, htarget, hcontents⟩

theorem WrittenAll.grows (hall : WrittenAll generated locations files later) :
    Grows files later := by
  induction hall with
  | nil => exact .refl _
  | cons hfirst _ ih => exact hfirst.grows.trans ih

/-- Nothing else changes than what is at the locations. -/
theorem WrittenAll.kept (hall : WrittenAll generated locations files later)
    (hother : location ∉ locations) : KeptAt files later location := by
  induction hall with
  | nil => exact .inl rfl
  | cons hfirst _ ih =>
      rw [List.mem_cons, not_or] at hother
      exact (hfirst.elsewhere hother.1).trans (ih hother.2)

/-- Each of the locations is that of a file to which one of the paths leads. -/
theorem WrittenAll.exists_fileAt? (hall : WrittenAll generated locations files later)
    (hmem : location ∈ locations) :
    ∃ file ∈ generated, later.fileAt? file.path = some location := by
  induction hall with
  | nil => cases hmem
  | @cons file rest place places files middle later hfirst hrest ih =>
      rcases List.mem_cons.mp hmem with rfl | hplace
      · exact ⟨file, List.mem_cons_self, hrest.grows.fileAt? hfirst.inPlace.fileAt?⟩
      · obtain ⟨other, hother, hfile⟩ := ih hplace
        exact ⟨other, List.mem_cons_of_mem _ hother, hfile⟩

/-- Files whose paths lead to different places are all in place in the end. -/
theorem WrittenAll.inPlace_of_distinct (hall : WrittenAll generated locations files later)
    (hdistinct : generated.Pairwise fun file other => ¬ SameFile later file.path other.path) :
    ∀ file ∈ generated, ∃ location, InPlace later file location := by
  induction hall with
  | nil => simp
  | @cons first rest location locations files middle later hfirst hrest ih =>
      obtain ⟨hapart, hdistinct⟩ := List.pairwise_cons.mp hdistinct
      have hlast : location ∉ locations := by
        intro hmem
        obtain ⟨file, hfile, hsame⟩ := hrest.exists_fileAt? hmem
        have hagain := hrest.grows.fileAt? hfirst.inPlace.fileAt?
        exact hapart file hfile ⟨location, hagain, hsame⟩
      rw [List.forall_mem_cons]
      exact ⟨⟨location, hfirst.inPlace.grows hrest.grows (hrest.kept hlast)⟩, ih hdistinct⟩

/-- To write a file that is in place changes nothing. -/
theorem write_inPlace (hlog : world.logFile = none)
    (hplace : InPlace world.files file location) :
    (file.write world).1 = .ok () ∧ (file.write world).2.logFile = none ∧
      (file.write world).2.files = world.files := by
  have hwrite : file.write world = (.ok (), world.report file.writtenEvent) := by
    unfold write
    rw [hplace.room.makeRoom]
    simp only [write_eq_self hplace.target hplace.contents]
  rw [hwrite]
  exact ⟨rfl, World.logFile_report hlog _, World.files_report hlog _⟩

/-- To write what is in place changes nothing. -/
theorem writeAll_inPlace (hlog : world.logFile = none)
    (hplace : ∀ file ∈ generated, ∃ location, InPlace world.files file location) :
    (writeAll generated world).1 = .ok () ∧ (writeAll generated world).2.files = world.files := by
  induction generated generalizing world with
  | nil => exact ⟨rfl, rfl⟩
  | cons first rest ih =>
      rw [List.forall_mem_cons] at hplace
      obtain ⟨⟨location, hfirst⟩, hrest⟩ := hplace
      obtain ⟨hdone, hquiet, hfiles⟩ := write_inPlace hlog hfirst
      rw [writeAll]
      split
      · next failure after hwrite =>
          rw [hwrite] at hdone
          cases hdone
      · next after hwrite =>
          rw [hwrite] at hquiet hfiles
          rw [← hfiles] at hrest ⊢
          exact ih hquiet hrest

end GeneratedFile

/-! ## Checking -/

section Check

variable {generated : List GeneratedFile} {world : World}

open GeneratedFile

/-- The paths that a check complains about. -/
def GeneratedFile.stalePaths (generated : List GeneratedFile) (files : FileSystem) :
    List String :=
  (generated.filter fun file => !isCurrent files file).map path

theorem GeneratedFile.checkAll_files (hlog : world.logFile = none) :
    (checkAll generated world).2.files = world.files := by
  unfold checkAll
  split
  · exact World.files_report hlog _
  · rfl

theorem GeneratedFile.checkAll_eq_ok_iff :
    (checkAll generated world).1 = .ok () ↔
      ∀ file ∈ generated, isCurrent world.files file = true := by
  have hcurrent : (generated.filter fun file => !isCurrent world.files file) = [] ↔
      ∀ file ∈ generated, isCurrent world.files file = true := by
    simp [List.filter_eq_nil_iff]
  rw [← hcurrent]
  unfold checkAll
  split
  · next hnil => simp [hnil]
  · next hstale => simp only [reduceCtorEq, false_iff]; exact hstale

theorem GeneratedFile.checkAll_eq_error {failure : Failure}
    (hcheck : (checkAll generated world).1 = .error failure) :
    failure = .stale (stalePaths generated world.files) := by
  unfold checkAll at hcheck
  split at hcheck
  · cases hcheck
  · cases hcheck
    rfl

end Check

end OpcodeTables
