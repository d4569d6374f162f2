import OpcodeTables.Proofs.Generation.Storing

/-!
# How far the writing gets

Files are written in their order up to the first that cannot be written, and what stands
behind that one makes no difference.  A file is written to its target: the location to
which its path leads once there is room for it.  The targets of the files that were
written are the only places where something is put that is no directory, and every
directory that is made is on the way to one of the files, the failing one included.

So a file that was written is current in the end, unless its target is that of a later
file as well.
-/

namespace OpcodeTables.GeneratedFile

open FileSystem

/-- The targets of the files that are written: of those in front of the first that
cannot be. -/
def targets : List GeneratedFile → World → List Location
  | [], _ => []
  | file :: rest, world =>
    match file.target? world.files with
    | none => []
    | some location => location :: targets rest (file.write world).2

/-! ## What is written -/

section Written

variable {generated : List GeneratedFile} {locations : List Location}
  {files later : FileSystem} {location : Location}

/-- New directories lie on the way to the files. -/
theorem WrittenAll.above (hall : WrittenAll generated locations files later)
    (hother : location ∉ locations) (hnone : files.node? location = none)
    (hnew : later.node? location ≠ none) :
    ∃ file ∈ generated, LiesAbove later file.path location := by
  induction hall with
  | nil => exact absurd hnone hnew
  | @cons file rest place places files middle later hfirst hrest ih =>
      rw [List.mem_cons, not_or] at hother
      by_cases hmiddle : middle.node? location = none
      · obtain ⟨other, hmem, habove⟩ := ih hother.2 hmiddle hnew
        exact ⟨other, List.mem_cons_of_mem _ hmem, habove⟩
      · have habove := hfirst.above hother.1 hnone hmiddle
        exact ⟨file, List.mem_cons_self, habove.grows hrest.grows⟩

theorem WrittenAll.length_eq (hall : WrittenAll generated locations files later) :
    locations.length = generated.length := by
  induction hall with
  | nil => rfl
  | cons _ _ ih => rw [List.length_cons, List.length_cons, ih]

/-- A file stays in place while nothing is written to its target. -/
theorem WrittenAll.inPlace (hall : WrittenAll generated locations files later) {index : Nat}
    {file : GeneratedFile} (hfile : generated[index]? = some file)
    (hplace : locations[index]? = some location)
    (hlast : location ∉ locations.drop (index + 1)) : InPlace later file location := by
  induction hall generalizing index with
  | nil => cases hfile
  | cons hfirst hrest ih =>
      cases index with
      | zero =>
          cases hfile
          cases hplace
          exact hfirst.inPlace.grows hrest.grows (hrest.kept hlast)
      | succ index => exact ih hfile hplace hlast

end Written

/-! ## How the writing ends -/

section Run

variable {generated others : List GeneratedFile} {world middle after : World}
  {failure : Failure}

theorem writeAll_append (hdone : writeAll generated world = (.ok (), middle)) :
    writeAll (generated ++ others) world = writeAll others middle := by
  induction generated generalizing world with
  | nil =>
      cases hdone
      rfl
  | cons first rest ih =>
      rw [writeAll] at hdone
      rw [List.cons_append, writeAll]
      split at hdone
      · cases hdone
      · next written hfirst => exact ih hdone

/-- The files that have a target are written to it; then there is none left, or the next
one fails. -/
theorem writeAll_targets (generated : List GeneratedFile) (hlog : world.logFile = none) :
    ∃ middle : World, middle.logFile = none ∧
      writeAll (generated.take (targets generated world).length) world = (.ok (), middle) ∧
      WrittenAll (generated.take (targets generated world).length) (targets generated world)
        world.files middle.files ∧
      ∀ failing ∈ (generated.drop (targets generated world).length).head?,
        failing.target? middle.files = none := by
  induction generated generalizing world with
  | nil => exact ⟨world, hlog, rfl, .nil, fun _ hfailing => nomatch hfailing⟩
  | cons first rest ih =>
      cases htarget : first.target? world.files with
      | none =>
          have hnone : targets (first :: rest) world = [] := by simp only [targets, htarget]
          rw [hnone]
          refine ⟨world, hlog, rfl, .nil, ?_⟩
          rintro failing ⟨⟩
          exact htarget
      | some location =>
          -- the targets behind the first file are those in the world that it leaves
          obtain ⟨written, hwrite, hquiet, hwritten⟩ := write_written hlog htarget
          have hsome : targets (first :: rest) world = location :: targets rest written := by
            simp only [targets, htarget, hwrite]
          obtain ⟨middle, hmiddle, hdone, hall, hend⟩ := ih hquiet
          rw [hsome]
          refine ⟨middle, hmiddle, ?_, .cons hwritten hall, hend⟩
          rw [List.length_cons, List.take_succ_cons, writeAll, hwrite]
          exact hdone

/-- All files are written, or some are, the next one fails, and those behind it make no
difference. -/
theorem writeAll_cases (generated : List GeneratedFile) (hlog : world.logFile = none) :
    ∃ written middle, WrittenAll written (targets generated world) world.files middle.files ∧
      writeAll written world = (.ok (), middle) ∧
      (generated = written ∨
        ∃ failing untouched path error after, generated = written ++ failing :: untouched ∧
          MakesRoom failing.path middle.files after.files ∧
          (path = failing.path ∨ directory? failing.path = some path) ∧
          ∀ others, writeAll (written ++ failing :: others) world =
            (.error (.file path error), after)) := by
  obtain ⟨middle, -, hdone, hall, hend⟩ := writeAll_targets generated hlog
  refine ⟨_, middle, hall, hdone, ?_⟩
  cases hrest : generated.drop (targets generated world).length with
  | nil =>
      rw [List.drop_eq_nil_iff] at hrest
      exact .inl (List.take_of_length_le hrest).symm
  | cons failing untouched =>
      rw [hrest] at hend
      obtain ⟨path, error, hfailed, hnamed⟩ := write_of_target?_eq_none (hend failing rfl)
      refine .inr ⟨failing, untouched, path, error,
        { middle with files := (makeRoom middle.files failing.path).2 }, ?_,
        makesRoom_makeRoom middle.files failing.path, hnamed, fun others => ?_⟩
      · rw [← hrest, List.take_append_drop]
      · rw [writeAll_append hdone, writeAll, hfailed]

/-- If the writing succeeds every file has been written. -/
theorem writeAll_written (hlog : world.logFile = none)
    (hwrite : writeAll generated world = (.ok (), after)) :
    WrittenAll generated (targets generated world) world.files after.files := by
  obtain ⟨written, middle, hall, hdone, hend⟩ := writeAll_cases generated hlog
  rcases hend with rfl | ⟨failing, untouched, path, error, reached, rfl, -, -, hfailed⟩
  · rw [hdone] at hwrite
    cases hwrite
    exact hall
  · rw [hfailed] at hwrite
    cases hwrite

/-- If it fails, the files in front of one were written, and on the way to that one
directories were made. -/
theorem writeAll_failed (hlog : world.logFile = none)
    (hwrite : writeAll generated world = (.error failure, after)) :
    ∃ written failing untouched middle, generated = written ++ failing :: untouched ∧
      WrittenAll written (targets generated world) world.files middle ∧
      MakesRoom failing.path middle after.files ∧
      ∃ path error, failure = .file path error ∧
        (path = failing.path ∨ directory? failing.path = some path) := by
  obtain ⟨written, middle, hall, hdone, hend⟩ := writeAll_cases generated hlog
  rcases hend with rfl | ⟨failing, untouched, path, error, reached, rfl, hroom, hnamed, hfailed⟩
  · rw [hdone] at hwrite
    cases hwrite
  · rw [hfailed] at hwrite
    cases hwrite
    exact ⟨written, failing, untouched, middle.files, rfl, hall, hroom, path, error, rfl, hnamed⟩

theorem writeAll_take_targets (generated : List GeneratedFile) (hlog : world.logFile = none) :
    (targets generated world).length ≤ generated.length ∧
      (writeAll (generated.take (targets generated world).length) world).1 = .ok () := by
  obtain ⟨middle, -, hdone, hall, -⟩ := writeAll_targets generated hlog
  have hlength := hall.length_eq
  rw [List.length_take] at hlength
  refine ⟨by omega, ?_⟩
  rw [hdone]

theorem writeAll_eq_ok_iff (generated : List GeneratedFile) (hlog : world.logFile = none) :
    (writeAll generated world).1 = .ok () ↔
      (targets generated world).length = generated.length := by
  obtain ⟨written, middle, hall, hdone, hend⟩ := writeAll_cases generated hlog
  rw [hall.length_eq]
  rcases hend with rfl | ⟨failing, untouched, path, error, after, rfl, -, -, hfailed⟩
  · simp [hdone]
  · simp [hfailed]

/-- Behind the file that fails nothing is looked at. -/
theorem writeAll_take_append (hlog : world.logFile = none)
    (hfails : (targets generated world).length < generated.length)
    (others : List GeneratedFile) :
    writeAll (generated.take ((targets generated world).length + 1) ++ others) world =
      writeAll generated world := by
  obtain ⟨written, middle, hall, -, hend⟩ := writeAll_cases generated hlog
  rw [hall.length_eq] at hfails ⊢
  rcases hend with rfl | ⟨failing, untouched, path, error, after, rfl, -, -, hfailed⟩
  · exact absurd hfails (lt_irrefl _)
  · rw [List.take_length_add_append, List.take_succ_cons, List.take_zero, List.append_assoc,
      List.singleton_append, hfailed, hfailed]

/-- Behind the last file that is written only directories are made for the next one. -/
theorem writeAll_effect (generated : List GeneratedFile) (hlog : world.logFile = none) :
    ∃ middle, WrittenAll (generated.take (targets generated world).length)
        (targets generated world) world.files middle ∧
      AddsDirectories middle (writeAll generated world).2.files ∧
      ∀ location, middle.node? location = none →
        (writeAll generated world).2.files.node? location ≠ none →
          ∃ file ∈ generated.take ((targets generated world).length + 1),
            LiesAbove (writeAll generated world).2.files file.path location := by
  obtain ⟨written, middle, hall, hdone, hend⟩ := writeAll_cases generated hlog
  refine ⟨middle.files, ?_⟩
  rcases hend with rfl | ⟨failing, untouched, path, error, after, rfl, hroom, -, hfailed⟩
  · rw [hall.length_eq, List.take_length, hdone]
    exact ⟨hall, .refl _, fun location hnone hnew => absurd hnone hnew⟩
  · rw [hall.length_eq, List.take_left, hfailed]
    refine ⟨hall, hroom.toAddsDirectories, fun location hnone hnew => ?_⟩
    refine ⟨failing, ?_, hroom.above hnone hnew⟩
    rw [List.take_length_add_append, List.take_succ_cons]
    exact List.mem_append_right _ List.mem_cons_self

/-- A file that is written is in place in the end if no later one has the same target. -/
theorem inPlace_of_targets (hlog : world.logFile = none) {index : Nat} {file : GeneratedFile}
    {location : Location} (hfile : generated[index]? = some file)
    (hplace : (targets generated world)[index]? = some location)
    (hlast : location ∉ (targets generated world).drop (index + 1)) :
    InPlace (writeAll generated world).2.files file location := by
  obtain ⟨middle, hall, hadds, -⟩ := writeAll_effect generated hlog
  obtain ⟨hindex, -⟩ := List.getElem?_eq_some_iff.mp hplace
  rw [← List.getElem?_take_of_lt hindex] at hfile
  exact (hall.inPlace hfile hplace hlast).grows hadds.grows (hadds.kept location)

theorem targets_take (generated : List GeneratedFile) (world : World) (count : Nat) :
    targets (generated.take count) world = (targets generated world).take count := by
  induction generated generalizing world count with
  | nil => simp [targets]
  | cons first rest ih =>
      cases count with
      | zero => rfl
      | succ count =>
          rw [List.take_succ_cons, targets, targets]
          cases first.target? world.files with
          | none => rfl
          | some location => exact congrArg (location :: ·) (ih _ count)

theorem fileAt?_of_targets (hlog : world.logFile = none) {index : Nat} {file : GeneratedFile}
    {location : Location} (hfile : generated[index]? = some file)
    (hplace : (targets generated world)[index]? = some location) :
    (writeAll (generated.take (index + 1)) world).2.files.fileAt? file.path = some location := by
  have hupTo := targets_take generated world (index + 1)
  have hlast : location ∉ (targets (generated.take (index + 1)) world).drop (index + 1) := by
    rw [hupTo, List.drop_take_self]
    exact List.not_mem_nil
  rw [← List.getElem?_take_of_lt (Nat.lt_succ_self index)] at hfile hplace
  rw [← hupTo] at hplace
  exact (inPlace_of_targets hlog hfile hplace hlast).fileAt?

end Run

/-- How far a list of files is written.  Those in front of the first failing one get to
their targets, those behind it make no difference, other files stay as they are, new
directories lie on the way to a file, a file is current unless a later one has its
target, and after a success with different targets a check is satisfied. -/
theorem writeAll_prefix (generated : List GeneratedFile) (files : FileSystem) :
    let outcome := writeAll generated { files }
    let later := outcome.2.files
    let places := targets generated { files }
    let count := places.length
    (count ≤ generated.length ∧ (writeAll (generated.take count) { files }).1 = .ok () ∧
      (outcome.1 = .ok () ↔ count = generated.length)) ∧
    (∀ index file location, generated[index]? = some file → places[index]? = some location →
      (writeAll (generated.take (index + 1)) { files }).2.files.fileAt? file.path =
        some location) ∧
    (count < generated.length → ∀ others,
      writeAll (generated.take (count + 1) ++ others) { files } = outcome) ∧
    Grows files later ∧
    (∀ location bytes, files.node? location = some (.file bytes) → location ∉ places →
      later.node? location = some (.file bytes)) ∧
    (∀ location, files.node? location = none → later.node? location ≠ none →
      location ∈ places ∨
        later.node? location = some .directory ∧
          ∃ file ∈ generated.take (count + 1), LiesAbove later file.path location) ∧
    (∀ index file location, generated[index]? = some file → places[index]? = some location →
      location ∉ places.drop (index + 1) → isCurrent later file = true) ∧
    (outcome.1 = .ok () → places.Nodup → (checkAll generated outcome.2).1 = .ok ()) := by
  intro outcome later places count
  have hquiet : ({ files } : World).logFile = none := rfl
  obtain ⟨hcount, hdone⟩ := writeAll_take_targets generated hquiet
  have hok := writeAll_eq_ok_iff generated hquiet
  obtain ⟨middle, hall, hadds, hmade⟩ := writeAll_effect generated hquiet
  have hkept : ∀ location ∉ places, KeptAt files later location :=
    fun location hplace => (hall.kept hplace).trans (hadds.kept location)
  refine ⟨⟨hcount, hdone, hok⟩, fun index file location => fileAt?_of_targets hquiet,
    fun hfails => writeAll_take_append hquiet hfails, hall.grows.trans hadds.grows, ?_, ?_, ?_, ?_⟩
  · intro location bytes hnode hplace
    exact (hkept location hplace).node?_eq_some hnode
  · intro location hnone hnew
    by_cases hplace : location ∈ places
    · exact .inl hplace
    -- It was made on the way to a file that was written, or to the one that failed.
    · refine .inr ⟨?_, ?_⟩
      · rcases hkept location hplace with hsame | ⟨-, hdirectory⟩
        · exact absurd (hsame.trans hnone) hnew
        · exact hdirectory
      · by_cases hmiddle : middle.node? location = none
        · exact hmade location hmiddle hnew
        · obtain ⟨file, hmem, habove⟩ := hall.above hplace hnone hmiddle
          exact ⟨file, List.take_subset_take_left _ (Nat.le_succ _) hmem,
            habove.grows hadds.grows⟩
  · intro index file location hfile hplace hlast
    exact (inPlace_of_targets hquiet hfile hplace hlast).isCurrent
  · intro hsuccess hdistinct
    have hwhole : places.length = generated.length := hok.mp hsuccess
    refine checkAll_eq_ok_iff.mpr fun file hmem => ?_
    obtain ⟨index, hindex, rfl⟩ := List.mem_iff_getElem.mp hmem
    have hplace : index < places.length := hwhole.symm ▸ hindex
    have hlast : places[index] ∉ places.drop (index + 1) := by
      have hbehind := hdistinct.sublist (List.drop_sublist index places)
      rw [List.drop_eq_getElem_cons hplace, List.nodup_cons] at hbehind
      exact hbehind.1
    exact (inPlace_of_targets hquiet (List.getElem?_eq_getElem hindex)
      (List.getElem?_eq_getElem hplace) hlast).isCurrent

end OpcodeTables.GeneratedFile
