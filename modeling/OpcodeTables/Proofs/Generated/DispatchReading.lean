import OpcodeTables.Generated.DispatchSource
import OpcodeTables.Proofs.Annotated.Leftmost
import OpcodeTables.Proofs.Catalogue.History
import OpcodeTables.Proofs.Generated.TableReading

/-!
# Reading the dispatch source back

The dispatch source shows the import list and the handler of every opcode, and
nothing else of a catalogue.  The handlers are read from the rows of the tables:
no handler that a scan can find holds a space, so a row falls apart into its
handlers, each with the comma behind it.  Once the tables are known to agree, so
do the texts in front of them, and an import line ends where its line does.
-/

namespace OpcodeTables

open Text

/-! ## Handlers hold no blanks -/

/-- A handler's name is not empty and holds no blank. -/
def IsHandler (handler : String) : Prop :=
  handler.toList ≠ [] ∧ ∀ c ∈ handler.toList, isBlank c = false

theorem IsHandler.notMem {handler : String} (hhandler : IsHandler handler) {c : Char}
    (hblank : isBlank c = true) : c ∉ handler.toList := by
  intro hmem
  rw [hhandler.2 c hmem] at hblank
  contradiction

theorem isHandler_fallbackHandler (space : Space) : IsHandler space.fallbackHandler := by
  have hne : space.fallbackHandler.toList ≠ [] := by cases space <;> decide
  have hfree : (space.fallbackHandler.toList.all fun c => !isBlank c) = true := by
    cases space <;> decide
  refine ⟨hne, fun c hmem => ?_⟩
  have hc := List.all_eq_true.mp hfree c hmem
  rwa [Bool.not_eq_true'] at hc

theorem Annotated.isHandler_of_mem_scan {text : String} {found : Annotated}
    (hmem : found ∈ Annotated.scan text) : IsHandler found.handler := by
  obtain ⟨start, occurrence, -, rfl⟩ := exists_standsAt_of_mem_scan hmem
  change IsHandler (String.ofList occurrence.declaration.handler)
  rw [IsHandler, String.toList_ofList]
  exact ⟨occurrence.declaration.handler_ne_nil,
    fun c hc => (occurrence.declaration.handler_chars c hc).2⟩

theorem Catalogue.isHandler_handlerAt (calls : List Call) (space : Space) (opcode : Opcode) :
    IsHandler (((empty.performAll calls).opcodes space).handlerAt opcode) := by
  unfold OpcodeMap.handlerAt
  cases hslot : ((empty.performAll calls).opcodes space).get? opcode with
  | none => exact isHandler_fallbackHandler _
  | some instruction =>
      obtain ⟨text, source, -, found, hfound, -, rfl⟩ := exists_scan_of_get? hslot
      exact Annotated.isHandler_of_mem_scan hfound

namespace DispatchSource

/-! ## The handlers of a row -/

/-- A word without the comma at its end. -/
def dropComma (word : List Char) : List Char :=
  if word.getLast? = some ',' then word.dropLast else word

/-- The handlers in a row: its words without their commas. -/
def handlersIn (row : List Char) : List String :=
  (words row).map fun word => String.ofList (dropComma word)

theorem dropComma_concat (word : List Char) : dropComma (word ++ [',']) = word := by
  simp [dropComma]

theorem words_handler {handler : String} (hhandler : IsHandler handler) :
    words (handler.toList ++ [',']) = [handler.toList ++ [',']] := by
  apply words_of_notMem (by simp)
  rw [List.mem_append, not_or]
  exact ⟨hhandler.notMem (by decide), by decide⟩

theorem words_alignRight (width : Nat) (handler : String) (behind : List Char) :
    words ((alignRight width handler).toList ++ behind) = words (handler.toList ++ behind) := by
  rw [alignRight, spaces, String.toList_append, String.toList_ofList, List.append_assoc,
    words_replicate_append]

theorem words_cells {handlers : List String} (hne : handlers ≠ [])
    (hhandlers : ∀ handler ∈ handlers, IsHandler handler) :
    words (", ".toList.intercalate
        (handlers.map fun handler => (alignRight 13 handler).toList) ++ [',']) =
      handlers.map fun handler => handler.toList ++ [','] := by
  induction handlers with
  | nil => contradiction
  | cons first rest ih =>
      have hfirst := words_handler (hhandlers first List.mem_cons_self)
      cases rest with
      | nil =>
          rw [List.map_singleton, List.intercalate_singleton, words_alignRight, hfirst]
          rfl
      | cons second rest =>
          have hrest := ih (List.cons_ne_nil second rest) fun handler hmem =>
            hhandlers handler (List.mem_cons_of_mem first hmem)
          let later := ", ".toList.intercalate
            ((second :: rest).map fun handler => (alignRight 13 handler).toList)
          calc words (", ".toList.intercalate
                ((first :: second :: rest).map fun handler => (alignRight 13 handler).toList) ++
                  [','])
              = words ((alignRight 13 first).toList ++ ([','] ++ ' ' :: (later ++ [',']))) := by
                simp [later]
            _ = words ((first.toList ++ [',']) ++ ' ' :: (later ++ [','])) := by
                rw [words_alignRight, List.append_assoc]
            _ = (first :: second :: rest).map fun handler => handler.toList ++ [','] := by
                rw [words_append_space, hfirst, hrest]
                rfl

/-- What stands in the cell of an opcode. -/
def cell (catalogue : Catalogue) (space : Space) (opcode : Opcode) : String :=
  alignRight 13 ((catalogue.opcodes space).handlerAt opcode)

/-- The handlers that a row shows. -/
def rowHandlers (catalogue : Catalogue) (space : Space) (index : Fin 64) : List String :=
  (List.finRange 4).map fun column =>
    (catalogue.opcodes space).handlerAt (TableLayout.opcodeAt index column)

theorem rowLine_eq (catalogue : Catalogue) (space : Space) (index : Fin 64) :
    TableLayout.rowLine (cell catalogue space) index =
      List.replicate 4 ' ' ++ (", ".toList.intercalate
        ((rowHandlers catalogue space index).map fun handler =>
          (alignRight 13 handler).toList) ++ [',']) := by
  simp only [TableLayout.rowLine, rowHandlers, cell, String.toList_append,
    String.toList_intercalate, List.append_assoc, List.map_map]
  rfl

/-- A row is read back as its four handlers. -/
theorem handlersIn_rowLine {catalogue : Catalogue} {space : Space}
    (hhandler : ∀ opcode, IsHandler ((catalogue.opcodes space).handlerAt opcode))
    (index : Fin 64) :
    handlersIn (TableLayout.rowLine (cell catalogue space) index) =
      rowHandlers catalogue space index := by
  have hhandlers : ∀ handler ∈ rowHandlers catalogue space index, IsHandler handler := by
    intro handler hmem
    obtain ⟨column, -, rfl⟩ := List.mem_map.mp hmem
    exact hhandler _
  have hne : rowHandlers catalogue space index ≠ [] := by simp [rowHandlers]
  rw [handlersIn, rowLine_eq, words_replicate_append, words_cells hne hhandlers, List.map_map]
  simp [Function.comp_def, dropComma_concat]

theorem newline_notMem_cell {catalogue : Catalogue} {space : Space}
    (hhandler : ∀ opcode, IsHandler ((catalogue.opcodes space).handlerAt opcode))
    (opcode : Opcode) : '\n' ∉ (cell catalogue space opcode).toList := by
  rw [cell, alignRight, spaces, String.toList_append, String.toList_ofList, List.mem_append,
    not_or]
  refine ⟨?_, (hhandler opcode).notMem (by decide)⟩
  intro hmem
  exact absurd (List.eq_of_mem_replicate hmem) (by decide)

/-! ## The parts of the text -/

/-- All that stands in front of the tables. -/
def beginning (catalogue : Catalogue) (paths : ImportPaths) : String :=
  TableLayout.disclaimer ++ String.join (catalogue.imports.modules.map (importLine paths)) ++
    preamble paths

theorem render_eq (catalogue : Catalogue) (paths : ImportPaths) :
    render catalogue paths =
      beginning catalogue paths ++
        TableLayout.tables "OPCODE_TABLE" "OpcodeFunc" (cell catalogue) ++ "\n" := by
  simp only [render, fragments, String.join_append, List.cons_append, String.join_cons,
    String.join_nil, String.append_empty, beginning, String.append_assoc]
  rfl

theorem rows_render {catalogue : Catalogue}
    (hhandler : ∀ space opcode, IsHandler ((catalogue.opcodes space).handlerAt opcode))
    (paths : ImportPaths) (space : Space) :
    TableLayout.rows (render catalogue paths) space =
      (List.finRange 64).map (TableLayout.rowLine (cell catalogue space)) := by
  have hbase : '\n' ∉ "OPCODE_TABLE".toList := by decide
  have htype : '\n' ∉ "OpcodeFunc".toList := by decide
  rw [render_eq]
  exact TableLayout.rows_tables (beginning catalogue paths) hbase htype
    (fun space => newline_notMem_cell (hhandler space)) space

theorem handlersIn_rows {catalogue : Catalogue}
    (hhandler : ∀ space opcode, IsHandler ((catalogue.opcodes space).handlerAt opcode))
    (paths : ImportPaths) (space : Space) :
    (TableLayout.rows (render catalogue paths) space).map handlersIn =
      (List.finRange 64).map (rowHandlers catalogue space) := by
  rw [rows_render hhandler, List.map_map]
  apply List.map_congr_left
  intro index _
  rw [Function.comp_apply]
  exact handlersIn_rowLine (hhandler space) index

theorem rowHandlers_injective {catalogue other : Catalogue} {space : Space}
    (hrows : (List.finRange 64).map (rowHandlers catalogue space) =
      (List.finRange 64).map (rowHandlers other space)) (opcode : Opcode) :
    (catalogue.opcodes space).handlerAt opcode = (other.opcodes space).handlerAt opcode :=
  congrFun (TableLayout.eq_of_rows_eq hrows) opcode

/-! ## The import list -/

theorem toList_importLine (paths : ImportPaths) (module : String) :
    (importLine paths module).toList =
      ("use " ++ paths.moduleRoot ++ "::").toList ++
        ((module.toList ++ "::*;".toList) ++ ['\n']) := by
  simp only [importLine, String.toList_append, List.append_assoc]
  rfl

theorem toList_importLine_append (paths : ImportPaths) (module : String) (rest : List Char) :
    (importLine paths module).toList ++ rest =
      ("use " ++ paths.moduleRoot ++ "::").toList ++
        ((module.toList ++ "::*;".toList) ++ '\n' :: rest) := by
  rw [toList_importLine, List.append_assoc, List.append_assoc, List.singleton_append]

/-- Behind the root an import line goes on to the end of its line, and so only
one module fits. -/
theorem importLine_append_inj {paths : ImportPaths} {module other : String}
    {rest behind : List Char} (hmodule : '\n' ∉ module.toList) (hother : '\n' ∉ other.toList)
    (htext : (importLine paths module).toList ++ rest =
      (importLine paths other).toList ++ behind) : module = other ∧ rest = behind := by
  have hinLine : ∀ {name : String}, '\n' ∉ name.toList →
      ∀ c ∈ name.toList ++ "::*;".toList, (c != '\n') = true := by
    intro name hname c hmem
    rw [bne_iff_ne]
    rintro rfl
    rcases List.mem_append.mp hmem with hin | hin
    · exact hname hin
    · exact absurd hin (by decide)
  -- the newline behind the line is the first one behind the root
  have hstop : ∀ text, ('\n' :: text).takeWhile (fun c => c != '\n') = [] :=
    fun text => List.takeWhile_cons_of_neg (by decide)
  rw [toList_importLine_append, toList_importLine_append] at htext
  have hbehind := List.append_cancel_left htext
  obtain ⟨hword, hrest⟩ := word_unique (hinLine hmodule) (hstop rest) (hinLine hother)
    (hstop behind) hbehind
  exact ⟨String.toList_injective (List.append_cancel_right hword), (List.cons.inj hrest).2⟩

/-- The import lines tell the modules. -/
theorem imports_injective {paths : ImportPaths} {modules others : List String}
    (hmodules : ∀ module ∈ modules, '\n' ∉ module.toList)
    (hothers : ∀ module ∈ others, '\n' ∉ module.toList)
    (hjoin : String.join (modules.map (importLine paths)) =
      String.join (others.map (importLine paths))) : modules = others := by
  have hlists := congrArg String.toList hjoin
  rw [String.toList_join, String.toList_join] at hlists
  clear hjoin
  have hne : ∀ module, (importLine paths module).toList ≠ [] := by
    intro module
    simp [toList_importLine]
  induction modules generalizing others with
  | nil =>
      cases others with
      | nil => rfl
      | cons other others =>
          rw [List.map_cons, List.flatMap_cons] at hlists
          exact absurd (List.append_eq_nil_iff.mp hlists.symm).1 (hne other)
  | cons module modules ih =>
      cases others with
      | nil =>
          rw [List.map_cons, List.flatMap_cons] at hlists
          exact absurd (List.append_eq_nil_iff.mp hlists).1 (hne module)
      | cons other others =>
          rw [List.forall_mem_cons] at hmodules hothers
          rw [List.map_cons, List.map_cons, List.flatMap_cons, List.flatMap_cons] at hlists
          obtain ⟨rfl, hrest⟩ := importLine_append_inj hmodules.1 hothers.1 hlists
          rw [ih hmodules.2 hothers.2 hrest]

/-! ## What the text shows -/

theorem cell_congr {catalogue other : Catalogue}
    (hhandler : ∀ space opcode,
      (catalogue.opcodes space).handlerAt opcode = (other.opcodes space).handlerAt opcode) :
    cell catalogue = cell other := by
  funext space opcode
  rw [cell, cell, hhandler]

theorem render_congr {catalogue other : Catalogue} (paths : ImportPaths)
    (hmodules : catalogue.imports.modules = other.imports.modules)
    (hhandler : ∀ space opcode,
      (catalogue.opcodes space).handlerAt opcode = (other.opcodes space).handlerAt opcode) :
    render catalogue paths = render other paths := by
  rw [render_eq, render_eq, beginning, beginning, hmodules, cell_congr hhandler]

theorem handlerAt_eq_of_render_eq {catalogue other : Catalogue} {paths : ImportPaths}
    (hhandler : ∀ space opcode, IsHandler ((catalogue.opcodes space).handlerAt opcode))
    (hother : ∀ space opcode, IsHandler ((other.opcodes space).handlerAt opcode))
    (hrender : render catalogue paths = render other paths) (space : Space) (opcode : Opcode) :
    (catalogue.opcodes space).handlerAt opcode = (other.opcodes space).handlerAt opcode := by
  apply rowHandlers_injective
  rw [← handlersIn_rows hhandler paths, ← handlersIn_rows hother paths, hrender]

theorem modules_eq_of_render_eq {catalogue other : Catalogue} {paths : ImportPaths}
    (hhandler : ∀ space opcode,
      (catalogue.opcodes space).handlerAt opcode = (other.opcodes space).handlerAt opcode)
    (hmodules : ∀ module ∈ catalogue.imports.modules, '\n' ∉ module.toList)
    (hothers : ∀ module ∈ other.imports.modules, '\n' ∉ module.toList)
    (hrender : render catalogue paths = render other paths) :
    catalogue.imports.modules = other.imports.modules := by
  rw [render_eq, render_eq, cell_congr hhandler, String.append_left_inj,
    String.append_left_inj, beginning, beginning, String.append_left_inj,
    String.append_right_inj] at hrender
  exact imports_injective hmodules hothers hrender

/-- The dispatch source tells the handler of every opcode, and no more than these and
the imports.  Where no module holds a newline, two runs render the same text if and only
if they show the same handlers and import the same modules. -/
theorem render_faithful (first second : List Call) (paths : ImportPaths) :
    let one := Catalogue.empty.performAll first
    let other := Catalogue.empty.performAll second
    (render one paths = render other paths →
      (∀ space opcode,
        (one.opcodes space).handlerAt opcode = (other.opcodes space).handlerAt opcode) ∧
      ((∀ module ∈ one.imports.modules, '\n' ∉ module.toList) →
        (∀ module ∈ other.imports.modules, '\n' ∉ module.toList) →
          one.imports.modules = other.imports.modules)) ∧
    (one.imports.modules = other.imports.modules →
      (∀ space opcode,
        (one.opcodes space).handlerAt opcode = (other.opcodes space).handlerAt opcode) →
      render one paths = render other paths) ∧
    (∃ front, render one paths =
      front ++ String.join (table one .primary) ++ String.join (table one .extended) ++ "\n") ∧
    ∀ space, (TableLayout.rows (render one paths) space).map handlersIn =
      (List.finRange 64).map fun index => (List.finRange 4).map fun column =>
        (one.opcodes space).handlerAt (TableLayout.opcodeAt index column) := by
  intro one other
  have hone := Catalogue.isHandler_handlerAt first
  have hother := Catalogue.isHandler_handlerAt second
  refine ⟨?_, ?_, ?_, handlersIn_rows hone paths⟩
  · intro hrender
    have hhandler := handlerAt_eq_of_render_eq hone hother hrender
    refine ⟨hhandler, fun hmodules hothers => ?_⟩
    exact modules_eq_of_render_eq hhandler hmodules hothers hrender
  · exact render_congr paths
  · refine ⟨beginning one paths, ?_⟩
    rw [render_eq, TableLayout.tables, Space.all, List.flatMap_cons, List.flatMap_singleton,
      String.join_append, ← String.append_assoc]
    rfl

/-- Two runs that differ in a name, its cycles and its source show the same
handlers and modules, and so they are written alike. -/
theorem render_faithful_other_name :
    let one := Catalogue.empty.performAll
      [.scan "// 'A' 00 4\npub fn f(" "a.rs", .register "a"]
    let other := Catalogue.empty.performAll
      [.scan "// 'B' 00 8\npub fn f(" "b.rs", .register "a"]
    render one {} = render other {} ∧ one.imports.modules = other.imports.modules := by
  have hfaithful := render_faithful
    [.scan "// 'A' 00 4\npub fn f(" "a.rs", .register "a"]
    [.scan "// 'B' 00 8\npub fn f(" "b.rs", .register "a"] {}
  have hone : Annotated.scan "// 'A' 00 4\npub fn f(" = [⟨"A", .plain 0 0, "4", "f"⟩] := by
    decide +kernel
  have hother : Annotated.scan "// 'B' 00 8\npub fn f(" = [⟨"B", .plain 0 0, "8", "f"⟩] := by
    decide +kernel
  simp only [Catalogue.performAll, Catalogue.perform, Catalogue.addText, Catalogue.addAll,
    List.foldl_cons, List.foldl_nil, hone, hother] at hfaithful ⊢
  have hrender := hfaithful.2.1 (by decide) fun space opcode => by
    rw [Catalogue.opcodes_registerModule, Catalogue.opcodes_registerModule,
      Catalogue.handlerAt_opcodes_add, Catalogue.handlerAt_opcodes_add]
    rfl
  exact ⟨hrender, (hfaithful.1 hrender).2 (by decide) (by decide)⟩

end DispatchSource

end OpcodeTables
