import OpcodeTables.Proofs.Catalogue.Repetition
import OpcodeTables.Proofs.Generation.Exits
import OpcodeTables.Proofs.Sources.Finding
import OpcodeTables.Proofs.Sources.Reading

/-!
# What a run does about duplicates

A run that denies duplicates fails for them where two annotations in its sources have the
same opcode, and is otherwise the run that allows them, up to the last event.

A run that allows duplicates warns of them once.  The number in the warning is that of
the annotations that replaced another one.  An opcode that is annotated three times
adds two to it, so it is not the number of the opcodes.
-/

namespace OpcodeTables

open Glob History Sources

namespace Sources

variable {files : FileSystem} {directory pattern : String} {paths : List String}
  {catalogue : Catalogue}

/-- Two annotations in some sources have the same opcode. -/
def Ambiguous (files : FileSystem) (paths : List String) : Prop :=
  ∃ first second : Fin (sightingsIn files paths).length, first ≠ second ∧
    ((sightingsIn files paths).get first).key = ((sightingsIn files paths).get second).key

/-- An opcode is ambiguous if its key occurs twice. -/
theorem ambiguous_iff : Ambiguous files paths ↔ ¬ (keys (sightingsIn files paths)).Nodup := by
  rw [keys, List.Nodup, List.pairwise_map, List.pairwise_iff_get]
  constructor
  · rintro ⟨first, second, hne, hkey⟩ hapart
    rcases lt_or_gt_of_ne hne with hlt | hlt
    · exact hapart first second hlt hkey
    · exact hapart second first hlt hkey.symm
  · intro hrepeated
    push Not at hrepeated
    obtain ⟨first, second, hlt, hkey⟩ := hrepeated
    exact ⟨first, second, hlt.ne, hkey⟩

theorem Gathers.reflects (hgathers : Gathers files directory pattern paths catalogue) :
    catalogue.Reflects (sightingsIn files paths) := by
  rw [hgathers.complete, ← sightings_flatMap_callsAt]
  exact Catalogue.performAll_reflects _

theorem Gathers.conflicts_ne_nil_iff
    (hgathers : Gathers files directory pattern paths catalogue) :
    catalogue.conflicts ≠ [] ↔ Ambiguous files paths := by
  rw [ambiguous_iff, Ne, hgathers.reflects.conflicts_eq_nil_iff]

end Sources

namespace Generation

/-! ## Denying duplicates -/

section Denying

variable {options : Options} {files : FileSystem} {conflicts : List Conflict}

/-- Without conflicts it makes no difference whether they are denied. -/
theorem run_denying_eq {world : World}
    (hnone : ∀ catalogue,
      (scanDirectory world options.sourceDirectory options.pattern).1 = .ok catalogue →
        catalogue.conflicts = []) :
    run { options with denyDuplicates := true } world =
      run { options with denyDuplicates := false } world := by
  unfold run
  cases hscan : scanDirectory world options.sourceDirectory options.pattern with
  | mk result scanned =>
      cases result with
      | error failure => rfl
      | ok catalogue =>
          rw [hscan] at hnone
          have hconflicts := hnone catalogue rfl
          simp only [finish, hconflicts, ne_eq, not_true_eq_false, false_and, if_false]
          rfl

/-- A denying run fails for duplicates if and only if two annotations in the sources
have the same opcode, and then it names one conflict for each repetition.  Else it is
the same run as one that allows them. -/
theorem run_denyDuplicates (options : Options) (files : FileSystem) :
    let denying := run { options with denyDuplicates := true } { files }
    let allowing := run { options with denyDuplicates := false } { files }
    let scan := (scanDirectory { files } options.sourceDirectory options.pattern).1
    ((∃ conflicts, denying.1 = .error (.duplicates conflicts)) ↔
      ∃ catalogue paths, scan = .ok catalogue ∧
        discover files options.sourceDirectory options.pattern = .ok paths ∧
        Ambiguous files paths) ∧
    (∀ conflicts paths, denying.1 = .error (.duplicates conflicts) →
      discover files options.sourceDirectory options.pattern = .ok paths →
        conflicts = History.conflicts (sightingsIn files paths) ∧
        conflicts.map replacing = (repetitions (sightingsIn files paths)).map
          fun sighting => (sighting.key, sighting.instruction)) ∧
    ((∀ conflicts, denying.1 ≠ .error (.duplicates conflicts)) → denying = allowing) := by
  intro denying allowing scan
  have hdenial : ∀ conflicts, denying.1 = .error (.duplicates conflicts) ↔
      ∃ paths catalogue, Gathers files options.sourceDirectory options.pattern paths catalogue ∧
        catalogue.conflicts ≠ [] ∧ conflicts = catalogue.conflicts := by
    intro conflicts
    refine run_eq_duplicates_iff.trans ?_
    simp only [Denied, and_true]
  refine ⟨⟨?_, ?_⟩, ?_, ?_⟩
  · rintro ⟨conflicts, hdenied⟩
    obtain ⟨paths, catalogue, hgathers, hconflicts, -⟩ := (hdenial conflicts).mp hdenied
    exact ⟨catalogue, paths, (scanDirectory_eq_ok_iff rfl).mpr ⟨paths, hgathers⟩, hgathers.found,
      hgathers.conflicts_ne_nil_iff.mp hconflicts⟩
  · rintro ⟨catalogue, paths, hscan, hfound, hambiguous⟩
    obtain ⟨others, hgathers⟩ := (scanDirectory_eq_ok_iff rfl).mp hscan
    obtain rfl : others = paths := Except.ok.inj (hgathers.found.symm.trans hfound)
    exact ⟨catalogue.conflicts, (hdenial _).mpr
      ⟨others, catalogue, hgathers, hgathers.conflicts_ne_nil_iff.mpr hambiguous, rfl⟩⟩
  · intro conflicts paths hdenied hfound
    obtain ⟨others, catalogue, hgathers, -, rfl⟩ := (hdenial conflicts).mp hdenied
    obtain rfl : others = paths := Except.ok.inj (hgathers.found.symm.trans hfound)
    rw [hgathers.reflects.conflicts]
    exact ⟨rfl, map_replacing_conflicts _⟩
  · intro hallowed
    refine run_denying_eq fun catalogue hscan => ?_
    by_contra hconflicts
    obtain ⟨paths, hgathers⟩ := (scanDirectory_eq_ok_iff rfl).mp hscan
    exact hallowed catalogue.conflicts
      ((hdenial _).mpr ⟨paths, catalogue, hgathers, hconflicts, rfl⟩)

end Denying

/-! ## The warning -/

/-- A warning that a run gives at its end. -/
def IsWarning (event : Event) : Prop := event.level = .warn ∧ event.area = .generation

instance (event : Event) : Decidable (IsWarning event) :=
  inferInstanceAs (Decidable (event.level = .warn ∧ event.area = .generation))

/-- The warnings of the run itself, apart from those of the scan. -/
def warnings (world : World) : List Event := world.events.filter fun event => IsWarning event

section Warnings

variable {world : World}

theorem warnings_report (world : World) (event : Event) :
    warnings (world.report event) =
      warnings world ++ if IsWarning event then [event] else [] := by
  rw [warnings, warnings, World.events_report, List.filter_append]
  by_cases hwarning : IsWarning event <;> simp [hwarning]

theorem warnings_report_of_not {event : Event} (hevent : ¬ IsWarning event) :
    warnings (world.report event) = warnings world := by
  rw [warnings_report, if_neg hevent, List.append_nil]

theorem warnings_reportAll {events : List Event} (hevents : ∀ event ∈ events, ¬ IsWarning event) :
    warnings (world.reportAll events) = warnings world := by
  induction events generalizing world with
  | nil => rfl
  | cons event rest ih =>
      rw [List.forall_mem_cons] at hevents
      calc warnings (world.reportAll (event :: rest))
          = warnings ((world.report event).reportAll rest) := rfl
        _ = warnings (world.report event) := ih hevents.2
        _ = warnings world := warnings_report_of_not hevents.1

/-! ### Scanning -/

theorem not_isWarning_of_mem_addAllEvents {catalogue : Catalogue} {source : String}
    {found : List Annotated} {event : Event}
    (hevent : event ∈ catalogue.addAllEvents source found) : ¬ IsWarning event := by
  induction found generalizing catalogue with
  | nil => cases hevent
  | cons first rest ih =>
      rw [Catalogue.addAllEvents, List.mem_append] at hevent
      rcases hevent with hfirst | hrest
      · rw [Catalogue.addEvents, List.mem_cons, Option.mem_toList,
          Option.map_eq_some_iff] at hfirst
        rcases hfirst with rfl | ⟨conflict, -, rfl⟩
        · simp [IsWarning, Catalogue.recordEvent]
        · simp [IsWarning, Catalogue.conflictEvent]
      · exact ih hrest

theorem not_isWarning_of_mem_sourceEvents {catalogue : Catalogue} {path : String}
    {found : List Annotated} {event : Event}
    (hevent : event ∈ sourceEvents catalogue path found) : ¬ IsWarning event := by
  rw [sourceEvents, List.mem_append, List.mem_cons] at hevent
  rcases hevent with hadded | rfl | hmodule
  · exact not_isWarning_of_mem_addAllEvents hadded
  · simp [IsWarning, scannedEvent]
  · cases hstem : Path.stem? path with
    | none => simp [hstem] at hmodule
    | some module =>
        simp only [hstem, Catalogue.registerEvents] at hmodule
        split_ifs at hmodule
        · cases hmodule
        · rw [List.mem_singleton] at hmodule
          simp [hmodule, IsWarning]

theorem warnings_addPaths (world : World) (catalogue : Catalogue) (paths : List String) :
    warnings (addPaths world catalogue paths).2 = warnings world := by
  induction paths generalizing world catalogue with
  | nil => rfl
  | cons path rest ih =>
      rw [addPaths]
      cases world.files.read path with
      | error error => rfl
      | ok bytes =>
          simp only
          rw [ih, warnings_reportAll fun event => not_isWarning_of_mem_sourceEvents]

theorem warnings_scanDirectory (world : World) (directory pattern : String) :
    warnings (scanDirectory world directory pattern).2 = warnings world := by
  unfold scanDirectory
  split
  · rfl
  · rw [scanPaths, warnings_addPaths, warnings_report_of_not]
    simp [IsWarning, Sources.foundEvent]

/-! ### Delivering -/

theorem warnings_write (file : GeneratedFile) (world : World) :
    warnings (file.write world).2 = warnings world := by
  unfold GeneratedFile.write
  split
  · rfl
  · split
    · rfl
    · rw [warnings_report_of_not]
      · rfl
      · simp [IsWarning, GeneratedFile.writtenEvent]

theorem warnings_writeAll (generated : List GeneratedFile) (world : World) :
    warnings (GeneratedFile.writeAll generated world).2 = warnings world := by
  induction generated generalizing world with
  | nil => rfl
  | cons file rest ih =>
      have hfile := warnings_write file world
      rw [GeneratedFile.writeAll]
      split
      · next hwrite => rw [← hfile, hwrite]
      · next hwrite => rw [ih, ← hfile, hwrite]

theorem warnings_checkAll (generated : List GeneratedFile) (world : World) :
    warnings (GeneratedFile.checkAll generated world).2 = warnings world := by
  unfold GeneratedFile.checkAll
  split
  · rw [warnings_report_of_not]
    simp [IsWarning, GeneratedFile.currentEvent]
  · rfl

theorem warnings_deliver (options : Options) (catalogue : Catalogue) (world : World) :
    warnings (deliver options catalogue world).2 = warnings world := by
  unfold deliver
  split
  · exact warnings_checkAll _ world
  · exact warnings_writeAll _ world

theorem warnings_finish {options : Options} {catalogue : Catalogue}
    (hallowed : ¬ Denied options catalogue) :
    warnings (finish options catalogue world).2 =
      warnings world ++
        if catalogue.conflicts = [] then [] else [duplicatesEvent catalogue.conflicts.length] := by
  have hfound : warnings (world.report (foundEvent catalogue)) = warnings world := by
    apply warnings_report_of_not
    simp [IsWarning, foundEvent]
  have hduplicates : IsWarning (duplicatesEvent catalogue.conflicts.length) := ⟨rfl, rfl⟩
  rw [finish_of_allowed hallowed, warnings_deliver, announced]
  split
  · rw [hfound, List.append_nil]
  · rw [warnings_report, hfound, if_pos hduplicates]

/-! ### The run -/

variable {options : Options} {files : FileSystem} {paths : List String} {catalogue : Catalogue}

/-- A run with conflicts warns once. -/
theorem warnings_run
    (hscan : (scanDirectory { files } options.sourceDirectory options.pattern).1 = .ok catalogue)
    (hallowed : ¬ Denied options catalogue) (hconflicts : catalogue.conflicts ≠ []) :
    warnings (run options { files }).2 = [duplicatesEvent catalogue.conflicts.length] := by
  have hsilent := warnings_scanDirectory { files } options.sourceDirectory options.pattern
  have hnone : warnings { files } = [] := rfl
  unfold run
  cases hwhole : scanDirectory { files } options.sourceDirectory options.pattern with
  | mk result scanned =>
      rw [hwhole] at hscan hsilent
      cases hscan
      simp only at hsilent ⊢
      rw [warnings_finish hallowed, if_neg hconflicts, hsilent, hnone, List.nil_append]

/-- The warning counts the annotations that replaced another one.  It counts the opcodes
that have more than one if and only if none has three. -/
theorem run_duplicatesWarning (hallowing : options.denyDuplicates = false)
    (hfound : discover files options.sourceDirectory options.pattern = .ok paths)
    (hscan : (scanDirectory { files } options.sourceDirectory options.pattern).1 = .ok catalogue)
    (hconflicts : catalogue.conflicts ≠ []) :
    let annotated := keys (sightingsIn files paths)
    let again := seenAgain (sightingsIn files paths)
    ∃ count, warnings (run options { files }).2 = [duplicatesEvent count] ∧
      count = ∑ key ∈ annotated.toFinset, (annotated.count key - 1) ∧
      again.card ≤ count ∧ (again.card = count ↔ ∀ key, annotated.count key ≤ 2) := by
  intro annotated again
  have hallowed : ¬ Denied options catalogue := by
    rintro ⟨-, hdeny⟩
    rw [hallowing] at hdeny
    cases hdeny
  obtain ⟨others, hgathers⟩ := (scanDirectory_eq_ok_iff rfl).mp hscan
  obtain rfl : others = paths := Except.ok.inj (hgathers.found.symm.trans hfound)
  have hlength : catalogue.conflicts.length =
      (History.conflicts (sightingsIn files others)).length := by
    rw [hgathers.reflects.conflicts]
  refine ⟨catalogue.conflicts.length, warnings_run hscan hallowed hconflicts, ?_, ?_, ?_⟩
  · rw [hlength]
    exact length_conflicts_eq_sum _
  · rw [hlength]
    exact card_seenAgain_le _
  · rw [hlength]
    exact card_seenAgain_eq_iff _

/-- The same digits in the other space are another opcode. -/
theorem run_duplicatesWarning_two_spaces :
    let files : FileSystem :=
      { entries := [(["a.rs"], .file (Utf8.encode
          "// 'X' 00 4\npub fn f(\n// 'X' CB 00 8\npub fn g(\n// 'Y' 00 4\npub fn h("))] }
    let options : Options := { sourceDirectory := "." }
    options.denyDuplicates = false ∧ discover files "." "*.rs" = .ok ["a.rs"] ∧
      (∃ catalogue, (scanDirectory { files } "." "*.rs").1 = .ok catalogue ∧
        catalogue.conflicts ≠ []) ∧
      (seenAgain (sightingsIn files ["a.rs"])).card = 1 ∧
      warnings (run options { files }).2 = [duplicatesEvent 1] := by
  intro files options
  let conflict : Conflict := ⟨.primary, 0, ⟨"X", "f", "4", "a.rs"⟩, ⟨"Y", "h", "4", "a.rs"⟩⟩
  have hfound : discover files "." "*.rs" = .ok ["a.rs"] := eq_ok_of_toOption (by decide +kernel)
  have hscan : (scanDirectory { files } "." "*.rs").1.map Catalogue.conflicts = .ok [conflict] :=
    eq_ok_of_toOption (by decide +kernel)
  obtain ⟨catalogue, hcatalogue, hconflicts⟩ := map_eq_ok hscan
  have hsome : catalogue.conflicts ≠ [] := by simp [hconflicts]
  have honce : (seenAgain (sightingsIn files ["a.rs"])).card = 1 := by decide +kernel
  have hsum : ∑ key ∈ (keys (sightingsIn files ["a.rs"])).toFinset,
      ((keys (sightingsIn files ["a.rs"])).count key - 1) = 1 := by decide +kernel
  obtain ⟨count, hwarnings, hcount, -⟩ :=
    @run_duplicatesWarning options files ["a.rs"] catalogue rfl hfound hcatalogue hsome
  rw [hcount, hsum] at hwarnings
  exact ⟨rfl, hfound, ⟨catalogue, hcatalogue, hsome⟩, honce, hwarnings⟩

/-- An opcode that is annotated three times is counted twice. -/
theorem warns_of_two_for_one_opcode :
    let files : FileSystem :=
      { entries := [(["a.rs"], .file (Utf8.encode
          "// 'X' 00 4\npub fn f(\n// 'Y' 00 4\npub fn g(\n// 'Z' 00 4\npub fn h("))] }
    let options : Options := { sourceDirectory := "." }
    options.denyDuplicates = false ∧ discover files "." "*.rs" = .ok ["a.rs"] ∧
      (∃ catalogue, (scanDirectory { files } "." "*.rs").1 = .ok catalogue ∧
        catalogue.conflicts ≠ []) ∧
      (seenAgain (sightingsIn files ["a.rs"])).card = 1 ∧
      warnings (run options { files }).2 = [duplicatesEvent 2] ∧
      duplicatesEvent 2 ≠ duplicatesEvent 1 := by
  intro files options
  let first : Instruction := ⟨"X", "f", "4", "a.rs"⟩
  let second : Instruction := ⟨"Y", "g", "4", "a.rs"⟩
  let third : Instruction := ⟨"Z", "h", "4", "a.rs"⟩
  have hfound : discover files "." "*.rs" = .ok ["a.rs"] := eq_ok_of_toOption (by decide +kernel)
  have hscan : (scanDirectory { files } "." "*.rs").1.map Catalogue.conflicts =
      .ok [⟨.primary, 0, first, second⟩, ⟨.primary, 0, second, third⟩] :=
    eq_ok_of_toOption (by decide +kernel)
  obtain ⟨catalogue, hcatalogue, hconflicts⟩ := map_eq_ok hscan
  have hsome : catalogue.conflicts ≠ [] := by simp [hconflicts]
  have hallowed : ¬ Denied options catalogue := fun hdenied => Bool.noConfusion hdenied.2
  have hwarnings := @warnings_run options files catalogue hcatalogue hallowed hsome
  rw [hconflicts] at hwarnings
  exact ⟨rfl, hfound, ⟨catalogue, hcatalogue, hsome⟩, by decide +kernel, hwarnings, by decide⟩

end Warnings

end Generation

end OpcodeTables
