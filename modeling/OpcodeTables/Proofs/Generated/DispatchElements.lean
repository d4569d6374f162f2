import OpcodeTables.Proofs.Generated.DispatchReading

/-!
# Commas and elements of the dispatch tables

A row of a table has the four commas behind its cells and besides those that its
handlers hold.  A handler is whatever stands in front of the argument list, type
parameters included, so it may hold commas; where every handler that was scanned is
an identifier each row has four commas and each table 256 elements.
-/

namespace OpcodeTables

open Text

namespace Text

theorem splitOn_filter {keeps : Char → Bool} {separator : Char}
    (hkeeps : keeps separator = true) (text : List Char) :
    (text.filter keeps).splitOn separator = (text.splitOn separator).map (List.filter keeps) := by
  induction text with
  | nil => simp
  | cons c rest ih =>
      have hrest : rest.splitOn separator ≠ [] := List.splitOn_ne_nil _ _
      rw [List.splitOn_cons_eq_if_modifyHead]
      by_cases hc : c = separator
      · rw [List.filter_cons_of_pos (by rw [hc, hkeeps]), List.splitOn_cons_eq_if_modifyHead, ih]
        simp [hc]
      · obtain ⟨first, others, hsplit⟩ := List.exists_cons_of_ne_nil hrest
        by_cases hkept : keeps c = true
        · rw [List.filter_cons_of_pos hkept, List.splitOn_cons_eq_if_modifyHead, ih, hsplit]
          simp [hc, hkept]
        · rw [List.filter_cons_of_neg hkept, ih, hsplit]
          simp [hc, hkept]

theorem splitOn_flatMap_concat (separator : Char) (pieces : List (List Char)) :
    (pieces.flatMap fun piece => piece ++ [separator]).splitOn separator =
      (pieces.flatMap fun piece => piece.splitOn separator) ++ [[]] := by
  induction pieces with
  | nil => rfl
  | cons first rest ih =>
      rw [List.flatMap_cons, List.append_assoc, List.singleton_append,
        List.splitOn_append_cons_self, ih, List.flatMap_cons, List.append_assoc]

theorem length_splitOn (separator : Char) (text : List Char) :
    (text.splitOn separator).length = text.count separator + 1 := by
  induction text with
  | nil => rfl
  | cons c rest ih =>
      rw [List.splitOn_cons_eq_if_modifyHead]
      by_cases hc : c = separator
      · simp [hc, ih]
      · simp [hc, ih]

end Text

/-! ## Identifiers -/

/-- A word of letters, digits and underscores that does not begin with a digit.  It
is left open which characters are letters. -/
def IsIdentifier (isLetter : Char → Bool) (word : String) : Prop :=
  word.toList ≠ [] ∧ (∀ c ∈ word.toList, isLetter c ∨ c.isDigit ∨ c = '_') ∧
    ∀ c ∈ word.toList.head?, ¬ c.isDigit

theorem IsIdentifier.comma_notMem {isLetter : Char → Bool} {word : String}
    (hletter : isLetter ',' = false) (hword : IsIdentifier isLetter word) :
    ',' ∉ word.toList := by
  intro hmem
  have hcomma := hword.2.1 ',' hmem
  simp [hletter] at hcomma

namespace DispatchSource

/-! ## One row -/

/-- The elements that a row of an array declares, each in front of its comma. -/
def rowElements (row : List Char) : List String :=
  ((row.splitOn ',').map fun piece => String.ofList (piece.filter fun c => c ≠ ' ')).dropLast

/-- The elements that the table of a space declares. -/
def elements (text : String) (space : Space) : List String :=
  (TableLayout.rows text space).flatMap rowElements

/-- What a handler turns into where commas divide elements. -/
def elementsOf (handler : String) : List String :=
  (handler.toList.splitOn ',').map String.ofList

theorem elementsOf_of_notMem {handler : String} (hcomma : ',' ∉ handler.toList) :
    elementsOf handler = [handler] := by
  simp [elementsOf, List.splitOn_eq_singleton hcomma]

theorem length_elementsOf (handler : String) :
    (elementsOf handler).length = handler.toList.count ',' + 1 := by
  simp [elementsOf, length_splitOn]

variable {catalogue : Catalogue} {space : Space}

theorem filter_handler {handler : String} (hhandler : IsHandler handler) :
    (handler.toList.filter fun c => c ≠ ' ') = handler.toList := by
  apply List.filter_eq_self.mpr
  intro c hmem
  have hspace : ' ' ∉ handler.toList := hhandler.notMem (by decide)
  rw [decide_eq_true_eq]
  rintro rfl
  exact hspace hmem

theorem filter_alignRight {handler : String} (hhandler : IsHandler handler) :
    ((alignRight 13 handler).toList.filter fun c => c ≠ ' ') = handler.toList := by
  rw [alignRight, spaces, String.toList_append, String.toList_ofList, List.filter_append,
    filter_handler hhandler]
  simp

theorem filter_cells {handlers : List String} (hne : handlers ≠ [])
    (hhandlers : ∀ handler ∈ handlers, IsHandler handler) :
    ((", ".toList.intercalate
        (handlers.map fun handler => (alignRight 13 handler).toList) ++ [',']).filter
          fun c => c ≠ ' ') =
      (handlers.map String.toList).flatMap fun handler => handler ++ [','] := by
  induction handlers with
  | nil => contradiction
  | cons first rest ih =>
      rw [List.forall_mem_cons] at hhandlers
      have hfirst := filter_alignRight hhandlers.1
      cases rest with
      | nil =>
          rw [List.map_singleton, List.intercalate_singleton, List.filter_append, hfirst]
          simp
      | cons second rest =>
          have hrest := ih (List.cons_ne_nil second rest) hhandlers.2
          have hcomma : (", ".toList.filter fun c => c ≠ ' ') = [','] := by decide
          rw [List.map_cons, List.map_cons, List.intercalate_cons_cons, List.append_assoc,
            List.append_assoc, List.filter_append, List.filter_append, hfirst, hcomma,
            ← @List.map_cons _ _ fun handler => (alignRight 13 handler).toList, hrest]
          simp

theorem filter_rowLine
    (hhandler : ∀ opcode, IsHandler ((catalogue.opcodes space).handlerAt opcode))
    (index : Fin 64) :
    ((TableLayout.rowLine (cell catalogue space) index).filter fun c => c ≠ ' ') =
      ((rowHandlers catalogue space index).map String.toList).flatMap
        fun handler => handler ++ [','] := by
  have hhandlers : ∀ handler ∈ rowHandlers catalogue space index, IsHandler handler := by
    intro handler hmem
    obtain ⟨column, -, rfl⟩ := List.mem_map.mp hmem
    exact hhandler _
  have hne : rowHandlers catalogue space index ≠ [] := by simp [rowHandlers]
  rw [rowLine_eq, List.filter_append, filter_cells hne hhandlers]
  simp

/-- A row holds four commas and those of its handlers. -/
theorem count_rowLine
    (hhandler : ∀ opcode, IsHandler ((catalogue.opcodes space).handlerAt opcode))
    (index : Fin 64) :
    (TableLayout.rowLine (cell catalogue space) index).count ',' =
      4 + ((rowHandlers catalogue space index).map fun handler =>
        handler.toList.count ',').sum := by
  have hkept : (decide (',' ≠ ' ')) = true := by decide
  have hlength : (rowHandlers catalogue space index).length = 4 := by simp [rowHandlers]
  have hcount : ((TableLayout.rowLine (cell catalogue space) index).filter
      fun c => decide (c ≠ ' ')).count ',' =
        (TableLayout.rowLine (cell catalogue space) index).count ',' := List.count_filter hkept
  rw [← hcount, filter_rowLine hhandler, List.count_flatMap, List.map_map, ← hlength]
  induction rowHandlers catalogue space index with
  | nil => rfl
  | cons first rest ih =>
      rw [List.map_cons, List.sum_cons, List.map_cons, List.sum_cons, List.length_cons, ih]
      simp
      omega

theorem rowElements_rowLine
    (hhandler : ∀ opcode, IsHandler ((catalogue.opcodes space).handlerAt opcode))
    (index : Fin 64) :
    rowElements (TableLayout.rowLine (cell catalogue space) index) =
      (rowHandlers catalogue space index).flatMap elementsOf := by
  have hkept : (decide (',' ≠ ' ')) = true := by decide
  have hsplit : ((TableLayout.rowLine (cell catalogue space) index).filter
      fun c => decide (c ≠ ' ')).splitOn ',' =
        ((TableLayout.rowLine (cell catalogue space) index).splitOn ',').map
          (List.filter fun c => decide (c ≠ ' ')) := splitOn_filter hkept _
  rw [filter_rowLine hhandler, splitOn_flatMap_concat] at hsplit
  have hpieces := congrArg (fun pieces => (pieces.map String.ofList).dropLast) hsplit
  simp only [List.map_map, List.map_append, List.map_singleton, List.dropLast_concat,
    List.flatMap_map, List.map_flatMap] at hpieces
  exact hpieces.symm

/-! ## Both tables -/

/-- The elements of a table are the handlers, divided at commas. -/
theorem elements_render
    (hhandler : ∀ space opcode, IsHandler ((catalogue.opcodes space).handlerAt opcode))
    (paths : ImportPaths) (space : Space) :
    elements (render catalogue paths) space =
      Opcode.all.flatMap fun opcode => elementsOf ((catalogue.opcodes space).handlerAt opcode) := by
  unfold elements
  rw [rows_render hhandler, List.flatMap_map, ← TableLayout.flatMap_opcodeAt, List.flatMap_assoc]
  apply List.flatMap_congr
  intro index _
  rw [rowElements_rowLine (hhandler space)]
  simp [rowHandlers, List.flatMap_map]

theorem map_count_rows
    (hhandler : ∀ space opcode, IsHandler ((catalogue.opcodes space).handlerAt opcode))
    (paths : ImportPaths) (space : Space) :
    (TableLayout.rows (render catalogue paths) space).map (List.count ',') =
      (List.finRange 64).map fun index =>
        4 + ((rowHandlers catalogue space index).map fun handler =>
          handler.toList.count ',').sum := by
  rw [rows_render hhandler, List.map_map]
  apply List.map_congr_left
  intro index _
  rw [Function.comp_apply]
  exact count_rowLine (hhandler space) index

/-- Four commas in each row and one element for each opcode. -/
structure Regular (catalogue : Catalogue) (paths : ImportPaths) (space : Space) : Prop where
  length_rows : (TableLayout.rows (render catalogue paths) space).length = 64
  commas : ∀ row ∈ TableLayout.rows (render catalogue paths) space, row.count ',' = 4
  elements : elements (render catalogue paths) space =
    Opcode.all.map (catalogue.opcodes space).handlerAt
  length_elements : (DispatchSource.elements (render catalogue paths) space).length = 256

theorem regular_of_comma_notMem
    (hhandler : ∀ space opcode, IsHandler ((catalogue.opcodes space).handlerAt opcode))
    (hcomma : ∀ opcode, ',' ∉ ((catalogue.opcodes space).handlerAt opcode).toList)
    (paths : ImportPaths) : Regular catalogue paths space := by
  have helements : elements (render catalogue paths) space =
      Opcode.all.map (catalogue.opcodes space).handlerAt := by
    rw [elements_render hhandler, ← List.flatMap_singleton' (Opcode.all.map _), List.flatMap_map]
    apply List.flatMap_congr
    intro opcode _
    exact elementsOf_of_notMem (hcomma opcode)
  refine ⟨?_, ?_, helements, ?_⟩
  · rw [rows_render hhandler]
    simp
  · intro row hrow
    rw [rows_render hhandler] at hrow
    obtain ⟨index, -, rfl⟩ := List.mem_map.mp hrow
    have hnone : ((rowHandlers catalogue space index).map fun handler =>
        handler.toList.count ',').sum = 0 := by
      apply List.sum_eq_zero
      intro count hcount
      obtain ⟨handler, hmem, rfl⟩ := List.mem_map.mp hcount
      obtain ⟨column, -, rfl⟩ := List.mem_map.mp hmem
      exact List.count_eq_zero.mpr (hcomma _)
    rw [count_rowLine (hhandler space), hnone]
  · rw [helements]
    simp [Opcode.all]

/-! ## What was scanned -/

theorem exists_sighting_handler {calls : List Call} {opcode : Opcode} {instruction : Instruction}
    (hslot : ((Catalogue.empty.performAll calls).opcodes space).get? opcode = some instruction) :
    ∃ sighting ∈ History.sightings calls, sighting.found.handler = instruction.handler := by
  obtain ⟨sighting, hseen, -, rfl⟩ := (Catalogue.performAll_reflects calls).exists_sighting hslot
  exact ⟨sighting, hseen, rfl⟩

theorem comma_notMem_handlerAt {isLetter : Char → Bool} {calls : List Call}
    (hletter : isLetter ',' = false)
    (hseen : ∀ sighting ∈ History.sightings calls, IsIdentifier isLetter sighting.found.handler)
    (opcode : Opcode) :
    ',' ∉ (((Catalogue.empty.performAll calls).opcodes space).handlerAt opcode).toList := by
  unfold OpcodeMap.handlerAt
  cases hslot : ((Catalogue.empty.performAll calls).opcodes space).get? opcode with
  | none => cases OpcodeMap.space _ <;> decide
  | some instruction =>
      obtain ⟨sighting, hmem, hsame⟩ := exists_sighting_handler hslot
      exact (hsame ▸ hseen sighting hmem).comma_notMem hletter

/-- The commas of each row and the elements of each table, by the handlers that they
show.  Where all handlers that were scanned are identifiers, each row has four elements
and each table 256. -/
theorem render_elements (isLetter : Char → Bool) (hletter : isLetter ',' = false)
    (calls : List Call) (paths : ImportPaths) :
    let catalogue := Catalogue.empty.performAll calls
    (∀ space opcode, IsHandler ((catalogue.opcodes space).handlerAt opcode)) ∧
    (∀ space,
      (TableLayout.rows (render catalogue paths) space).map (List.count ',') =
        ((List.finRange 64).map fun index =>
          4 + ((rowHandlers catalogue space index).map fun handler =>
            handler.toList.count ',').sum) ∧
      elements (render catalogue paths) space =
        Opcode.all.flatMap fun opcode => elementsOf ((catalogue.opcodes space).handlerAt opcode)) ∧
    ((∀ sighting ∈ History.sightings calls, IsIdentifier isLetter sighting.found.handler) →
      (∀ space opcode instruction, (catalogue.opcodes space).get? opcode = some instruction →
        IsIdentifier isLetter instruction.handler) ∧
      ∀ space, Regular catalogue paths space) := by
  intro catalogue
  have hhandler := Catalogue.isHandler_handlerAt calls
  refine ⟨hhandler, ?_, ?_⟩
  · intro space
    exact ⟨map_count_rows hhandler paths space, elements_render hhandler paths space⟩
  · intro hseen
    refine ⟨?_, fun space => ?_⟩
    · intro space opcode instruction hslot
      obtain ⟨sighting, hmem, hsame⟩ := exists_sighting_handler hslot
      exact hsame ▸ hseen sighting hmem
    · exact regular_of_comma_notMem hhandler (comma_notMem_handlerAt hletter hseen) paths

/-- A blank in front of the parenthesis is no part of the handler. -/
theorem render_elements_space_before_parenthesis :
    let catalogue := Catalogue.empty.performAll [.scan "// 'X' 00 4\npub fn nop_1 (" "a.rs"]
    IsIdentifier Char.isAlpha "nop_1" ∧
      catalogue.primary.get? 0 = some ⟨"X", "nop_1", "4", "a.rs"⟩ ∧
      ∀ space, Regular catalogue {} space := by
  intro catalogue
  have hword : IsIdentifier Char.isAlpha "nop_1" := by
    refine ⟨by decide, ?_, ?_⟩
    · intro c hmem
      fin_cases hmem <;> decide
    · intro c hhead
      obtain rfl : 'n' = c := Option.some.inj hhead
      decide
  have hseen : ∀ sighting ∈
      History.sightings [.scan "// 'X' 00 4\npub fn nop_1 (" "a.rs"],
        sighting.found.handler = "nop_1" := by
    decide +kernel
  have hslot : catalogue.primary.get? 0 = some ⟨"X", "nop_1", "4", "a.rs"⟩ := by decide +kernel
  obtain ⟨-, -, hplain⟩ := render_elements Char.isAlpha (by decide)
    [.scan "// 'X' 00 4\npub fn nop_1 (" "a.rs"] {}
  exact ⟨hword, hslot, (hplain fun sighting hmem => (hseen sighting hmem).symm ▸ hword).2⟩

/-- Type parameters without a blank between them are taken for a part of the handler. -/
theorem not_identifier_of_type_parameters :
    let catalogue := Catalogue.empty.performAll [.scan "// 'X' 00 4\npub fn f<A,B>(" "a.rs"]
    catalogue.primary.get? 0 = some ⟨"X", "f<A,B>", "4", "a.rs"⟩ ∧
      ¬ IsIdentifier Char.isAlpha "f<A,B>" ∧
      (∃ row ∈ TableLayout.rows (render catalogue {}) .primary, row.count ',' = 5) ∧
      (elements (render catalogue {}) .primary).length = 257 := by
  intro catalogue
  have hhandler : ∀ space opcode, IsHandler ((catalogue.opcodes space).handlerAt opcode) :=
    Catalogue.isHandler_handlerAt _
  have hscan : Annotated.scan "// 'X' 00 4\npub fn f<A,B>(" =
      [⟨"X", .plain 0 0, "4", "f<A,B>"⟩] := by decide +kernel
  have hadded : catalogue = Catalogue.empty.add "a.rs" ⟨"X", .plain 0 0, "4", "f<A,B>"⟩ := by
    simp only [catalogue, Catalogue.performAll, Catalogue.perform, Catalogue.addText,
      Catalogue.addAll, List.foldl_cons, List.foldl_nil, hscan]
  -- the scan need not be computed again
  clear_value catalogue
  have hcommas : ∀ opcode, ((catalogue.opcodes .primary).handlerAt opcode).toList.count ',' =
      if opcode = 0 then 1 else 0 := by
    intro opcode
    rw [hadded, Catalogue.handlerAt_opcodes_add]
    by_cases hzero : opcode = 0
    · subst hzero
      decide
    · have hmissing : (Catalogue.empty.opcodes .primary).handlerAt opcode = "missing" := by
        simp only [OpcodeMap.handlerAt, Catalogue.empty, Catalogue.opcodes, OpcodeMap.get?_empty]
        rfl
      rw [if_neg, if_neg hzero, hmissing]
      · decide
      · rintro ⟨-, hsame⟩
        exact hzero (hsame.symm.trans (by decide))
  have hletter : Char.isAlpha ',' = false := by decide
  refine ⟨by rw [hadded]; decide, ?_, ?_, ?_⟩
  · intro hword
    exact hword.comma_notMem hletter (by decide)
  · have hrow : TableLayout.rowLine (cell catalogue .primary) 0 ∈
        TableLayout.rows (render catalogue {}) .primary := by
      rw [rows_render hhandler]
      exact List.mem_map_of_mem (List.mem_finRange 0)
    refine ⟨_, hrow, ?_⟩
    rw [count_rowLine (hhandler .primary)]
    simp only [rowHandlers, List.map_map, Function.comp_def, hcommas]
    decide
  · rw [elements_render hhandler, List.length_flatMap]
    simp only [length_elementsOf, hcommas]
    decide +kernel

end DispatchSource

end OpcodeTables
