import OpcodeTables.Proofs.Annotated.Quiet
import OpcodeTables.Proofs.Catalogue.Imports
import OpcodeTables.Proofs.Generated.DispatchReading

/-!
# Scanning the dispatch source

The dispatch source is written into the directory of the handler sources, and a scan
that meets it there finds no annotation in it.  What is spliced into it holds no two
slashes side by side, or else, as a handler, no blank; and what stands behind each
splice keeps it apart from the rest.
-/

namespace OpcodeTables

open Annotated

/-! ## The name of the processor type -/

theorem ImportPaths.isPrefix_beforeColons (text : List Char) : beforeColons text <+: text := by
  induction text using beforeColons.induct with
  | case1 rest => exact List.nil_prefix
  | case2 c rest hcolons ih =>
      rw [beforeColons]
      · exact List.cons_prefix_cons.mpr ⟨rfl, ih⟩
      · exact hcolons
  | case3 => exact List.prefix_rfl

theorem ImportPaths.slashesApart_cpuType {paths : ImportPaths}
    (hcpu : SlashesApart paths.cpuPath.toList) : SlashesApart paths.cpuType.toList := by
  have hsuffix : paths.cpuType.toList <:+ paths.cpuPath.toList := by
    have hprefix := List.reverse_suffix.mpr (isPrefix_beforeColons paths.cpuPath.toList.reverse)
    rw [List.reverse_reverse] at hprefix
    rwa [cpuType, String.toList_ofList]
  exact fun hslashes => hcpu (hslashes.trans hsuffix.isInfix)

namespace DispatchSource

/-! ## The text in front of the tables -/

theorem sealed_disclaimer : Sealed TableLayout.disclaimer.toList := by
  have hend : TableLayout.disclaimer.toList =
      TableLayout.disclaimer.toList.dropLast.dropLast ++ '.' :: ['\n'] := by decide
  rw [hend]
  exact (quiet_of_quote_notMem (by decide)).sealed (by decide) (by decide)

theorem sealed_importLine {paths : ImportPaths} {module : String}
    (hroot : SlashesApart paths.moduleRoot.toList) (hmodule : SlashesApart module.toList) :
    Sealed (importLine paths module).toList := by
  have hparts : (importLine paths module).toList =
      "use ".toList ++ ((paths.moduleRoot.toList ++ ':' :: [':']) ++
        (module.toList ++ ':' :: ":*;\n".toList)) := by
    simp [importLine]
  rw [hparts]
  have hword : Sealed "use ".toList := sealed_of_slash_notMem (by decide)
  have hfrom : Sealed (paths.moduleRoot.toList ++ ':' :: [':']) :=
    (quiet_of_slashesApart hroot).sealed (by decide) (by decide)
  have hname : Sealed (module.toList ++ ':' :: ":*;\n".toList) :=
    (quiet_of_slashesApart hmodule).sealed (by decide) (by decide)
  exact hword.append (hfrom.append hname)

theorem sealed_fallbackFunction {cpuType : String} (hcpu : SlashesApart cpuType.toList)
    (space : Space) : Sealed (fallbackFunction cpuType space).toList := by
  have hend : ") -> i32 \x7b\n".toList = ')' :: " -> i32 \x7b\n".toList := rfl
  have hname : Sealed ("fn " ++ space.fallbackHandler ++ "(cpu: &mut ").toList := by
    cases space <;> exact sealed_of_slash_notMem (by decide)
  have htype : Sealed (cpuType.toList ++ ')' :: " -> i32 \x7b\n".toList) :=
    (quiet_of_slashesApart hcpu).sealed (by decide) (by decide)
  have hbody : ∀ digits : String, '/' ∉ digits.toList →
      Sealed ("    panic!(\"Opcode 0x" ++ digits ++
        "\x7b:02X\x7d is not implemented!\", cpu.mem.read_b(cpu.reg.pc - 1))\n\x7d\n").toList := by
    intro digits hdigits
    apply sealed_of_slash_notMem
    simp only [String.toList_append, List.mem_append, not_or]
    exact ⟨⟨by decide, hdigits⟩, by decide⟩
  cases space with
  | primary =>
      have hall := (hname.append htype).append (hbody "" (by decide))
      simpa [fallbackFunction, hend] using hall
  | extended =>
      have hall := (hname.append htype).append (hbody extendedMarker (by decide))
      simpa [fallbackFunction, hend] using hall

theorem sealed_preamble {paths : ImportPaths} (hcpu : SlashesApart paths.cpuPath.toList) :
    Sealed (preamble paths).toList := by
  have htype := ImportPaths.slashesApart_cpuType hcpu
  have hfallbacks := (sealed_fallbackFunction htype .primary).append
    (sealed_fallbackFunction htype .extended)
  have hparts : (preamble paths).toList =
      "\nuse ".toList ++ ((paths.cpuPath.toList ++ ';' :: ['\n']) ++
        (("/// The type of functions that implement an opcode".toList ++ '.' :: ['\n']) ++
          ("pub type OpcodeFunc = fn(&mut ".toList ++
            ((paths.cpuType.toList ++ ')' :: " -> i32;\n\n".toList) ++
              ((fallbackFunction paths.cpuType .primary).toList ++
                (fallbackFunction paths.cpuType .extended).toList))))) := by
    simp [preamble]
  rw [hparts]
  have hcpuEnd : Sealed (paths.cpuPath.toList ++ ';' :: ['\n']) :=
    (quiet_of_slashesApart hcpu).sealed (by decide) (by decide)
  have hcomment :
      Sealed ("/// The type of functions that implement an opcode".toList ++ '.' :: ['\n']) :=
    (quiet_of_quote_notMem (by decide)).sealed (by decide) (by decide)
  have htypeEnd : Sealed (paths.cpuType.toList ++ ')' :: " -> i32;\n\n".toList) :=
    (quiet_of_slashesApart htype).sealed (by decide) (by decide)
  exact (sealed_of_slash_notMem (by decide)).append (hcpuEnd.append (hcomment.append
    ((sealed_of_slash_notMem (by decide)).append (htypeEnd.append hfallbacks))))

/-! ## The tables -/

theorem sealed_comment (index : Fin 16) : Sealed (TableLayout.comment index).toList := by
  have hlower : ∀ digit : Nibble, '/' ≠ digit.lower := by decide
  let opcode := TableLayout.opcodeAt (TableLayout.rowAt index 0) 0
  have hparts : (TableLayout.comment index).toList =
      ("    // ".toList ++ ['0']) ++ 'x' :: [opcode.high.lower, opcode.low.lower, '\n'] := by
    simp [TableLayout.comment, Opcode.commentText, opcode]
  rw [hparts]
  exact (quiet_of_quote_notMem (by decide)).sealed (by decide) (by simp [hlower])

theorem sealed_cell {handler : String} (hhandler : IsHandler handler) {rest : List Char}
    (hrest : '/' ∉ rest) : Sealed ((Text.alignRight 13 handler).toList ++ ',' :: rest) := by
  have hspaces : '/' ∉ (Text.spaces (13 - handler.length)).toList := by
    rw [Text.spaces, String.toList_ofList]
    intro hmem
    exact absurd (List.eq_of_mem_replicate hmem) (by decide)
  rw [Text.alignRight, String.toList_append, List.append_assoc]
  exact (sealed_of_slash_notMem hspaces).append
    ((quiet_of_not_blank hhandler.2).sealed (by decide) hrest)

theorem sealed_cells {handlers : List String} (hne : handlers ≠ [])
    (hhandlers : ∀ handler ∈ handlers, IsHandler handler) :
    Sealed (", ".toList.intercalate
      (handlers.map fun handler => (Text.alignRight 13 handler).toList) ++ [',']) := by
  induction handlers with
  | nil => contradiction
  | cons first rest ih =>
      rw [List.forall_mem_cons] at hhandlers
      cases rest with
      | nil =>
          rw [List.map_singleton, List.intercalate_singleton]
          exact sealed_cell hhandlers.1 List.not_mem_nil
      | cons second rest =>
          have hrest := ih (List.cons_ne_nil second rest) hhandlers.2
          have hfirst : Sealed ((Text.alignRight 13 first).toList ++ ',' :: [' ']) :=
            sealed_cell hhandlers.1 (by decide)
          have hboth := hfirst.append hrest
          simpa using hboth

theorem sealed_row {catalogue : Catalogue} {space : Space}
    (hhandler : ∀ opcode, IsHandler ((catalogue.opcodes space).handlerAt opcode))
    (index : Fin 64) : Sealed (TableLayout.row (cell catalogue space) index).toList := by
  have hhandlers : ∀ handler ∈ rowHandlers catalogue space index, IsHandler handler := by
    intro handler hmem
    obtain ⟨column, -, rfl⟩ := List.mem_map.mp hmem
    exact hhandler _
  have hcells := sealed_cells (by simp [rowHandlers]) hhandlers
  have hindent : Sealed (List.replicate 4 ' ') := sealed_of_slash_notMem (by decide)
  have hend : Sealed ['\n'] := sealed_of_slash_notMem (by decide)
  rw [TableLayout.toList_row, rowLine_eq]
  exact (hindent.append hcells).append hend

theorem sealed_of_mem_table {catalogue : Catalogue} {space : Space}
    (hhandler : ∀ opcode, IsHandler ((catalogue.opcodes space).handlerAt opcode))
    {fragment : String} (hmem : fragment ∈ table catalogue space) : Sealed fragment.toList := by
  have hdeclaration : ∀ space : Space, '/' ∉
      (TableLayout.declaration (space.tablePrefix ++ "OPCODE_TABLE") "OpcodeFunc").toList := by
    intro space
    cases space <;> decide
  rw [table, TableLayout.fragments, List.mem_append, List.mem_cons, List.mem_singleton] at hmem
  rcases hmem with (rfl | hblock) | rfl
  · exact sealed_of_slash_notMem (hdeclaration space)
  · obtain ⟨index, -, hinside⟩ := List.mem_flatMap.mp hblock
    rcases List.mem_cons.mp hinside with rfl | hrow
    · exact sealed_comment index
    · obtain ⟨line, -, rfl⟩ := List.mem_map.mp hrow
      exact sealed_row hhandler (TableLayout.rowAt index line)
  · exact sealed_of_slash_notMem (by decide)

/-- In the dispatch source nothing opens an annotation. -/
theorem quiet_render {catalogue : Catalogue} {paths : ImportPaths}
    (hhandler : ∀ space opcode, IsHandler ((catalogue.opcodes space).handlerAt opcode))
    (hmodules : ∀ module ∈ catalogue.imports.modules, SlashesApart module.toList)
    (hroot : SlashesApart paths.moduleRoot.toList)
    (hcpu : SlashesApart paths.cpuPath.toList) : Quiet (render catalogue paths).toList := by
  have hfragments : ∀ fragment ∈ fragments catalogue paths, Sealed fragment.toList := by
    simp only [fragments, List.cons_append, List.forall_mem_cons, List.forall_mem_append]
    refine ⟨sealed_disclaimer, ⟨⟨?_, sealed_preamble hcpu, by simp⟩, ?_⟩, ?_⟩
    · intro fragment hmem
      obtain ⟨module, hmodule, rfl⟩ := List.mem_map.mp hmem
      exact sealed_importLine hroot (hmodules module hmodule)
    · intro fragment hmem
      obtain ⟨space, -, htable⟩ := List.mem_flatMap.mp hmem
      exact sealed_of_mem_table (hhandler space) htable
    · exact ⟨sealed_of_slash_notMem (by decide), by simp⟩
  rw [render, String.toList_join]
  exact (sealed_flatMap hfragments).quiet

theorem scan_render_eq_nil {catalogue : Catalogue} {paths : ImportPaths}
    (hhandler : ∀ space opcode, IsHandler ((catalogue.opcodes space).handlerAt opcode))
    (hmodules : ∀ module ∈ catalogue.imports.modules, SlashesApart module.toList)
    (hroot : SlashesApart paths.moduleRoot.toList)
    (hcpu : SlashesApart paths.cpuPath.toList) : Annotated.scan (render catalogue paths) = [] :=
  (quiet_render hhandler hmodules hroot hcpu).scanChars_eq_nil

/-- A scan of the dispatch source finds nothing, and so it adds nothing to any
catalogue. -/
theorem scan_render_performAll (calls : List Call) (paths : ImportPaths)
    (hmodules : ∀ module, Call.register module ∈ calls → SlashesApart module.toList)
    (hroot : SlashesApart paths.moduleRoot.toList)
    (hcpu : SlashesApart paths.cpuPath.toList) :
    let text := render (Catalogue.empty.performAll calls) paths
    Annotated.scan text = [] ∧
      ∀ (catalogue : Catalogue) (source : String), catalogue.addText text source = catalogue := by
  intro text
  have hscan : Annotated.scan text = [] := by
    apply scan_render_eq_nil (Catalogue.isHandler_handlerAt calls) _ hroot hcpu
    intro module hmodule
    exact hmodules module (Catalogue.mem_imports_performAll hmodule)
  exact ⟨hscan, fun catalogue source => catalogue.addText_of_scan_eq_nil source hscan⟩

/-- The handler holds two slashes and a quote, and what is imported ends in a slash. -/
theorem scan_render_performAll_slashes :
    let calls : List Call :=
      [.scan "// 'A' 00 4\npub fn //'f' (" "a.rs", .register "/ 'a' 00 4/"]
    let paths : ImportPaths := { moduleRoot := "/ 'root' /", cpuPath := "core::/ 'CPU'/" }
    ((Catalogue.empty.performAll calls).opcodes .primary).handlerAt 0 = "//'f'" ∧
      SlashesApart paths.moduleRoot.toList ∧ SlashesApart paths.cpuPath.toList ∧
      Annotated.scan (render (Catalogue.empty.performAll calls) paths) = [] := by
  intro calls paths
  have hhandler : ((Catalogue.empty.performAll calls).opcodes .primary).handlerAt 0 = "//'f'" := by
    decide +kernel
  have hroot : SlashesApart paths.moduleRoot.toList := by decide +kernel
  have hcpu : SlashesApart paths.cpuPath.toList := by decide +kernel
  have hmodules : ∀ module, Call.register module ∈ calls → SlashesApart module.toList := by
    intro module hmodule
    obtain rfl : module = "/ 'a' 00 4/" := by simpa [calls] using hmodule
    decide +kernel
  exact ⟨hhandler, hroot, hcpu, (scan_render_performAll calls paths hmodules hroot hcpu).1⟩

end DispatchSource

end OpcodeTables
