import OpcodeTables.Proofs.Catalogue.Imports
import OpcodeTables.Proofs.Generated.DispatchScanning
import OpcodeTables.Proofs.Generation.Exits
import OpcodeTables.Proofs.Text.Utf8

/-!
# A second run

A run may write the dispatch source among the sources that it scans, so a second run
reads what the first one wrote.  It finds no annotation there and registers no module
for it, and every other source still holds what it held; so the second run arrives at
the same catalogue, and what it writes is in place already.
-/

namespace OpcodeTables

open FileSystem

/-! ## Sources with the same effect -/

/-- The second list of paths is the first with some paths added. -/
inductive AddsPaths (isAdded : String → Prop) : List String → List String → Prop where
  | nil : AddsPaths isAdded [] []
  | keep {path : String} {before after : List String} (hrest : AddsPaths isAdded before after) :
      AddsPaths isAdded (path :: before) (path :: after)
  | add {path : String} {before after : List String} (hadded : isAdded path)
      (hrest : AddsPaths isAdded before after) : AddsPaths isAdded before (path :: after)

/-- Calls that no catalogue tells apart. -/
def SameEffect (calls others : List Call) : Prop :=
  ∀ catalogue : Catalogue, catalogue.performAll calls = catalogue.performAll others

theorem SameEffect.append {calls others later laterOthers : List Call}
    (hfirst : SameEffect calls others) (hlater : SameEffect later laterOthers) :
    SameEffect (calls ++ later) (others ++ laterOthers) := by
  intro catalogue
  rw [Catalogue.performAll_append, Catalogue.performAll_append, hfirst, hlater]

theorem AddsPaths.mem {isAdded : String → Prop} {before after : List String}
    (hadded : AddsPaths isAdded before after) {path : String} (hpath : path ∈ after) :
    path ∈ before ∨ isAdded path := by
  induction hadded with
  | nil => exact .inl hpath
  | keep _ ih =>
      rcases List.mem_cons.mp hpath with rfl | hrest
      · exact .inl List.mem_cons_self
      · exact (ih hrest).imp_left (List.mem_cons_of_mem _)
  | add hfirst _ ih =>
      rcases List.mem_cons.mp hpath with rfl | hrest
      · exact .inr hfirst
      · exact ih hrest

theorem AddsPaths.sameEffect {isAdded : String → Prop} {before after : List String}
    {calls others : String → List Call} (hadded : AddsPaths isAdded before after)
    (hkept : ∀ path ∈ before, SameEffect (others path) (calls path))
    (hidle : ∀ path ∈ after, isAdded path → SameEffect (others path) []) :
    SameEffect (after.flatMap others) (before.flatMap calls) := by
  induction hadded with
  | nil => exact fun catalogue => rfl
  | keep _ ih =>
      rw [List.forall_mem_cons] at hkept hidle
      rw [List.flatMap_cons, List.flatMap_cons]
      exact hkept.1.append (ih hkept.2 hidle.2)
  | add hpath _ ih =>
      rw [List.forall_mem_cons] at hidle
      rw [List.flatMap_cons]
      exact (hidle.1 hpath).append (ih hkept hidle.2)

namespace Sources

/-- A source without annotations and with a reserved name adds nothing. -/
theorem callsOf_idle {path module : String} {bytes : List UInt8}
    (hscan : Annotated.scan (Utf8.decode bytes) = []) (hstem : Path.stem? path = some module)
    (hreserved : ImportList.isReserved module = true) : SameEffect (callsOf path bytes) [] := by
  intro catalogue
  have hadmits : catalogue.imports.admits module = false := by
    rw [ImportList.admits, hreserved]
    rfl
  have htext : catalogue.addText (Utf8.decode bytes) path = catalogue :=
    catalogue.addText_of_scan_eq_nil path hscan
  have hregister : catalogue.registerModule module = catalogue := by
    rw [Catalogue.registerModule, ImportList.register, if_neg (by simp [hadmits])]
  rw [callsOf, hstem]
  change (catalogue.addText (Utf8.decode bytes) path).registerModule module = catalogue
  rw [htext, hregister]

theorem slash_notMem_imports {files : FileSystem} {directory pattern : String}
    {paths : List String} {catalogue : Catalogue}
    (hgathers : Gathers files directory pattern paths catalogue) {module : String}
    (hmodule : module ∈ catalogue.imports.modules) : '/' ∉ module.toList := by
  rw [hgathers.complete] at hmodule
  obtain ⟨path, hpath, hcall⟩ :=
    List.mem_flatMap.mp (Catalogue.mem_imports_performAll hmodule)
  obtain ⟨bytes, hread⟩ := hgathers.readable path hpath
  rw [callsAt_of_read hread] at hcall
  rcases List.mem_cons.mp hcall with hscan | hregister
  · cases hscan
  · obtain ⟨name, hname, hsame⟩ := List.mem_map.mp hregister
    cases hsame
    exact Path.slash_notMem_of_stem? (Option.mem_toList.mp hname)

end Sources

namespace Generation

open GeneratedFile Sources

/-- A second run finds what the first one found, but for the dispatch source. -/
structure Settled (options : Options) (files later : FileSystem) (before after : List String) :
    Prop where
  /-- The outputs are different files. -/
  distinct : (options.dispatchPath :: options.disassemblyPath :: options.reportPath.toList).Pairwise
    fun path other => ¬ SameFile later path other
  found : discover files options.sourceDirectory options.pattern = .ok before
  foundAgain : discover later options.sourceDirectory options.pattern = .ok after
  added : AddsPaths (fun path => SameFile later path options.dispatchPath) before after
  /-- The other outputs are no sources. -/
  unread : ∀ path ∈ before ++ after,
    ∀ output ∈ options.disassemblyPath :: options.reportPath.toList,
      ¬ SameFile later path output
  /-- A source that is overwritten with the dispatch source has a reserved name and held
  no annotation. -/
  reserved : ∀ path ∈ before ++ after, ∀ location, later.fileAt? path = some location →
    later.fileAt? options.dispatchPath = some location →
    (∃ module, Path.stem? path = some module ∧ ImportList.isReserved module = true) ∧
      ∀ bytes, files.node? location = some (.file bytes) →
        Annotated.scan (Utf8.decode bytes) = []
  root : Annotated.SlashesApart options.importPaths.moduleRoot.toList
  cpu : Annotated.SlashesApart options.importPaths.cpuPath.toList

variable {options : Options} {files later : FileSystem} {before after : List String}
  {catalogue : Catalogue} {path : String} {places : List Location} {location : Location}
  {bytes : List UInt8}

/-! ## The outputs -/

theorem map_path_outputs (options : Options) (catalogue : Catalogue) :
    (outputs options catalogue).map GeneratedFile.path =
      options.dispatchPath :: options.disassemblyPath :: options.reportPath.toList := by
  unfold outputs report?
  cases options.reportPath <;> rfl

theorem Settled.inPlace (hsettled : Settled options files later before after)
    (hwritten : WrittenAll (outputs options catalogue) places files later) :
    ∀ file ∈ outputs options catalogue, ∃ location, InPlace later file location := by
  have hdistinct := hsettled.distinct
  rw [← map_path_outputs options catalogue, List.pairwise_map] at hdistinct
  exact hwritten.inPlace_of_distinct hdistinct

theorem Settled.scan_dispatch_eq_nil (hsettled : Settled options files later before after)
    (hgathers : Gathers files options.sourceDirectory options.pattern before catalogue) :
    Annotated.scan (DispatchSource.render catalogue options.importPaths) = [] := by
  refine DispatchSource.scan_render_eq_nil ?_ ?_ hsettled.root hsettled.cpu
  · intro space opcode
    rw [hgathers.complete]
    exact Catalogue.isHandler_handlerAt _ space opcode
  · intro module hmodule hslashes
    exact slash_notMem_imports hgathers hmodule (hslashes.subset (by simp))

/-! ## The sources -/

theorem read_of_fileAt? (hexhausted : files.exhausted = false)
    (hfile : files.fileAt? path = some location)
    (hnode : files.node? location = some (.file bytes)) : files.read path = .ok bytes := by
  obtain ⟨held, hstatus⟩ := fileAt?_eq_some_iff.mp hfile
  exact read_eq_ok_iff.mpr ⟨hexhausted, location, (Grows.refl files).status_file hstatus hnode⟩

/-- A source holds what it held, or the dispatch source was written to it. -/
theorem Settled.read (hsettled : Settled options files later before after)
    (hwritten : WrittenAll (outputs options catalogue) places files later) (hpath : path ∈ before)
    (hread : files.read path = .ok bytes) :
    later.read path = .ok bytes ∨
      ∃ location, later.fileAt? path = some location ∧
        later.fileAt? options.dispatchPath = some location ∧
        files.node? location = some (.file bytes) := by
  have hgrows := hwritten.grows
  obtain ⟨hexhausted, location, hstatus⟩ := read_eq_ok_iff.mp hread
  obtain ⟨-, ending, -, hend⟩ := status_eq_ok_iff.mp hstatus
  have hnode := (nodeAtEnd_eq_file_iff.mp hend).2
  have hfile := hgrows.fileAt? (fileAt?_eq_some_iff.mpr ⟨bytes, hstatus⟩)
  by_cases hplace : location ∈ places
  · right
    obtain ⟨file, hmem, hoverwritten⟩ := hwritten.exists_fileAt? hplace
    have houtput := List.mem_map_of_mem (f := GeneratedFile.path) hmem
    rw [map_path_outputs, List.mem_cons] at houtput
    rcases houtput with hdispatch | hother
    · rw [hdispatch] at hoverwritten
      exact ⟨location, hfile, hoverwritten, hnode⟩
    · exact absurd ⟨location, hfile, hoverwritten⟩
        (hsettled.unread path (List.mem_append_left after hpath) file.path hother)
  · left
    have hkept := hwritten.kept hplace
    exact read_of_fileAt? (hgrows.exhausted.trans hexhausted) hfile (hkept.node?_eq_some hnode)

/-- What the second run reads where the dispatch source was written. -/
theorem Settled.dispatch (hsettled : Settled options files later before after)
    (hgathers : Gathers files options.sourceDirectory options.pattern before catalogue)
    (hwritten : WrittenAll (outputs options catalogue) places files later)
    (hpath : path ∈ before ++ after) (hfile : later.fileAt? path = some location)
    (hdispatch : later.fileAt? options.dispatchPath = some location) :
    Readable later path ∧ SameEffect (callsAt later path) [] := by
  let file : GeneratedFile :=
    ⟨options.dispatchPath, DispatchSource.render catalogue options.importPaths⟩
  obtain ⟨place, hplace⟩ := hsettled.inPlace hwritten file (by simp [outputs, sources, file])
  have hsame : place = location := by
    have hplaced := hplace.fileAt?
    rw [hdispatch] at hplaced
    exact (Option.some.inj hplaced).symm
  have hexhausted := (writeTarget_eq_ok_iff.mp hplace.target).2.1
  have hread := read_of_fileAt? hexhausted hfile (hsame ▸ hplace.contents)
  have hscan : Annotated.scan (Utf8.decode file.bytes) = [] := by
    rw [GeneratedFile.bytes, Utf8.decode_encode]
    exact hsettled.scan_dispatch_eq_nil hgathers
  obtain ⟨⟨module, hstem, hreserved⟩, -⟩ := hsettled.reserved path hpath location hfile hdispatch
  rw [callsAt_of_read hread]
  exact ⟨⟨_, hread⟩, callsOf_idle hscan hstem hreserved⟩

theorem Settled.kept (hsettled : Settled options files later before after)
    (hgathers : Gathers files options.sourceDirectory options.pattern before catalogue)
    (hwritten : WrittenAll (outputs options catalogue) places files later) (hpath : path ∈ before) :
    Readable later path ∧ SameEffect (callsAt later path) (callsAt files path) := by
  obtain ⟨bytes, hread⟩ := hgathers.readable path hpath
  rcases hsettled.read hwritten hpath hread with hagain | ⟨location, hfile, hdispatch, hnode⟩
  · rw [callsAt_of_read hread, callsAt_of_read hagain]
    exact ⟨⟨bytes, hagain⟩, fun catalogue => rfl⟩
  · have hmem := List.mem_append_left after hpath
    obtain ⟨hreadable, hidle⟩ := hsettled.dispatch hgathers hwritten hmem hfile hdispatch
    obtain ⟨⟨module, hstem, hreserved⟩, hscan⟩ :=
      hsettled.reserved path hmem location hfile hdispatch
    have hbefore := callsOf_idle (hscan bytes hnode) hstem hreserved
    rw [callsAt_of_read hread]
    exact ⟨hreadable, fun catalogue => (hidle catalogue).trans (hbefore catalogue).symm⟩

/-- The second run gathers what the first one did. -/
theorem Settled.gathers (hsettled : Settled options files later before after)
    (hgathers : Gathers files options.sourceDirectory options.pattern before catalogue)
    (hwritten : WrittenAll (outputs options catalogue) places files later) :
    Gathers later options.sourceDirectory options.pattern after catalogue where
  found := hsettled.foundAgain
  readable path hpath := by
    rcases hsettled.added.mem hpath with hkept | ⟨location, hfile, hdispatch⟩
    · exact (hsettled.kept hgathers hwritten hkept).1
    · exact (hsettled.dispatch hgathers hwritten (List.mem_append_right before hpath) hfile
        hdispatch).1
  complete := by
    have heffect : SameEffect (after.flatMap (callsAt later)) (before.flatMap (callsAt files)) := by
      refine hsettled.added.sameEffect ?_ ?_
      · intro path hpath
        exact (hsettled.kept hgathers hwritten hpath).2
      · intro path hpath hadded
        obtain ⟨location, hfile, hdispatch⟩ := hadded
        exact (hsettled.dispatch hgathers hwritten (List.mem_append_right before hpath) hfile
          hdispatch).2
    rw [heffect, hgathers.complete]

/-! ## The second run -/

/-- A run whose outputs are in place changes nothing. -/
theorem run_of_inPlace (hcheck : options.check = false)
    (hgathers : Gathers files options.sourceDirectory options.pattern before catalogue)
    (hallowed : ¬ Denied options catalogue)
    (hplace : ∀ file ∈ outputs options catalogue, ∃ location, InPlace files file location) :
    (run options { files }).1 = .ok catalogue ∧ (run options { files }).2.files = files := by
  obtain ⟨world, rfl, hlog, hresult, hafter⟩ := run_of_gathers hgathers hallowed
  obtain ⟨hdone, hfiles⟩ := writeAll_inPlace hlog hplace
  have hdeliver : deliver options catalogue world =
      writeAll (outputs options catalogue) world := by
    rw [deliver, if_neg (by simp [hcheck])]
    rfl
  rw [hresult, hafter, hdeliver, hdone, hfiles]
  exact ⟨rfl, rfl⟩

/-- A checking run is satisfied with outputs that are in place. -/
theorem run_check_of_inPlace (hcheck : options.check = true)
    (hgathers : Gathers files options.sourceDirectory options.pattern before catalogue)
    (hallowed : ¬ Denied options catalogue)
    (hplace : ∀ file ∈ sources options catalogue, ∃ location, InPlace files file location) :
    (run options { files }).1 = .ok catalogue ∧ (run options { files }).2.files = files := by
  obtain ⟨world, rfl, hlog, hresult, hafter⟩ := run_of_gathers hgathers hallowed
  have hdone : (checkAll (sources options catalogue) world).1 = .ok () := by
    rw [checkAll_eq_ok_iff]
    intro file hfile
    obtain ⟨location, hinPlace⟩ := hplace file hfile
    exact hinPlace.isCurrent
  have hdeliver : deliver options catalogue world =
      checkAll (sources options catalogue) world := by
    rw [deliver, if_pos hcheck]
  rw [hresult, hafter, hdeliver, hdone, checkAll_files hlog]
  exact ⟨rfl, rfl⟩

/-- Where a second run finds what the first one found, it ends with the same catalogue
and changes nothing, and a checking run succeeds. -/
theorem run_fixpoint {world : World} (hcheck : options.check = false)
    (hrun : run options { files } = (.ok catalogue, world))
    (hsettled : Settled options files world.files before after) :
    let again := run options { files := world.files }
    let checked := run { options with check := true } { files := world.files }
    (again.1 = .ok catalogue ∧ again.2.files = world.files) ∧
      checked.1 = .ok catalogue ∧ checked.2.files = world.files := by
  intro again checked
  have hexit := run_exit options files
  rw [hrun] at hexit
  cases hexit with
  | current _ _ hchecks => rw [hcheck] at hchecks; cases hchecks
  | @written paths _ _ _ hfirst hallowed _ hwritten =>
      obtain rfl : paths = before := by
        have hsame := hfirst.found.symm.trans hsettled.found
        exact Except.ok.inj hsame
      have hgathers := hsettled.gathers hfirst hwritten
      have hplace := hsettled.inPlace hwritten
      have hsources : ∀ file ∈ sources options catalogue,
          ∃ location, InPlace world.files file location :=
        fun file hfile => hplace file (List.mem_append_left _ hfile)
      have hchecks : ({ options with check := true } : Options).check = true := rfl
      exact ⟨run_of_inPlace hcheck hgathers hallowed hplace,
        run_check_of_inPlace hchecks hgathers hallowed hsources⟩

/-- The dispatch source is the only file that matches, and only the second run finds
it. -/
theorem run_fixpoint_own_output :
    let options : Options :=
      { sourceDirectory := ".", pattern := "*.rs", dispatchPath := "opcodes.rs",
        disassemblyPath := "/names.rs" }
    let files : FileSystem := { entries := [(["home"], .directory)], workDirectory := ["home"] }
    let first := run options { files }
    let again := run options { files := first.2.files }
    first.1.isOk = true ∧ Settled options files first.2.files [] ["opcodes.rs"] ∧
      again.1 = first.1 ∧ again.2.files = first.2.files := by
  intro options files first again
  have hok : first.1.isOk = true := by decide +kernel
  have hdispatch : first.2.files.fileAt? "opcodes.rs" = some ["home", "opcodes.rs"] := by
    decide +kernel
  have hdisassembly : first.2.files.fileAt? "/names.rs" = some ["names.rs"] := by decide +kernel
  have hnone : files.node? ["home", "opcodes.rs"] = none := by decide
  have happart : ¬ SameFile first.2.files "opcodes.rs" "/names.rs" := by
    intro hsame
    obtain ⟨location, hfirst, hsecond⟩ := hsame
    rw [hdispatch] at hfirst
    rw [hdisassembly] at hsecond
    exact absurd (Option.some.inj (hfirst.trans hsecond.symm)) (by decide)
  have hsettled : Settled options files first.2.files [] ["opcodes.rs"] := {
    distinct := by simpa [options] using happart
    found := by decide +kernel
    foundAgain := by decide +kernel
    added := .add ⟨_, hdispatch, hdispatch⟩ .nil
    unread := by simpa [options] using happart
    reserved := by
      intro path hpath location hfile _
      obtain rfl : path = "opcodes.rs" := by simpa using hpath
      rw [hdispatch] at hfile
      cases hfile
      refine ⟨⟨"opcodes", by decide, by decide⟩, fun bytes hnode => ?_⟩
      rw [hnone] at hnode
      cases hnode
    root := by decide +kernel
    cpu := by decide +kernel }
  have hfirst : run options { files } = first := rfl
  -- nothing more has to be computed of the first run
  clear_value first
  cases hresult : first.1 with
  | error failure =>
      rw [hresult] at hok
      cases hok
  | ok catalogue =>
      have hrun : run options { files } = (.ok catalogue, first.2) :=
        hfirst.trans (Prod.ext hresult rfl)
      have hagain := run_fixpoint rfl hrun hsettled
      exact ⟨rfl, hsettled, hagain.1⟩

end Generation

end OpcodeTables
