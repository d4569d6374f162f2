import OpcodeTables.Generated.DisassemblySource
import OpcodeTables.Proofs.Annotated.Leftmost
import OpcodeTables.Proofs.Catalogue.History
import OpcodeTables.Proofs.Generated.TableReading

/-!
# Reading the disassembly source back

The disassembly source shows the name of every opcode and nothing else of a
catalogue.  A name may hold anything but a newline, so a row is read by a lexer
that knows only how a literal ends: at the first quote that no backslash escapes.
Escaping keeps every quote and backslash of a name behind a backslash of its own,
so no name ends its literal early and no name reaches into the next cell.
-/

namespace OpcodeTables

open Text

/-! ## Names stay within their line -/

theorem Annotated.newline_notMem_name {text : String} {found : Annotated}
    (hmem : found ∈ Annotated.scan text) : '\n' ∉ found.name.toList := by
  obtain ⟨start, occurrence, -, rfl⟩ := exists_standsAt_of_mem_scan hmem
  change '\n' ∉ (String.ofList occurrence.name).toList
  rw [String.toList_ofList]
  exact occurrence.name_inLine

namespace DisassemblySource

theorem nameAt_eq (map : OpcodeMap) (opcode : Opcode) :
    nameAt map opcode = (map.get? opcode).elim "Missing" Instruction.name := by
  unfold nameAt
  cases map.get? opcode <;> rfl

/-- What is shown for an opcode was scanned, or says that nothing was. -/
theorem nameAt_cases (calls : List Call) (space : Space) (opcode : Opcode) :
    nameAt ((Catalogue.empty.performAll calls).opcodes space) opcode = missingName ∨
      ∃ sighting ∈ History.sightings calls, sighting.found.name =
        nameAt ((Catalogue.empty.performAll calls).opcodes space) opcode := by
  unfold nameAt
  cases hslot : ((Catalogue.empty.performAll calls).opcodes space).get? opcode with
  | none => exact .inl rfl
  | some instruction =>
      obtain ⟨sighting, hseen, -, rfl⟩ :=
        (Catalogue.performAll_reflects calls).exists_sighting hslot
      exact .inr ⟨sighting, hseen, rfl⟩

theorem newline_notMem_nameAt (calls : List Call) (space : Space) (opcode : Opcode) :
    '\n' ∉ (nameAt ((Catalogue.empty.performAll calls).opcodes space) opcode).toList := by
  rcases nameAt_cases calls space opcode with hmissing | ⟨sighting, hseen, hshown⟩
  · rw [hmissing]
    decide
  · obtain ⟨text, -, hfound⟩ := History.exists_scan_of_mem_sightings hseen
    rw [← hshown]
    exact Annotated.newline_notMem_name hfound

/-! ## Literals -/

/-- Reads the text of a literal from the place behind its opening quote, and what
stands behind the closing one.  A backslash escapes a backslash or a quote. -/
def unquote? : List Char → Option (List Char × List Char)
  | [] => none
  | '"' :: rest => some ([], rest)
  | ['\\'] => none
  | '\\' :: c :: rest =>
    if c = '\\' ∨ c = '"' then (unquote? rest).map fun read => (c :: read.1, read.2) else none
  | c :: rest => (unquote? rest).map fun read => (c :: read.1, read.2)

/-- Reads a literal from its opening quote on. -/
def literal? (text : List Char) : Option (String × List Char) := do
  let rest ← after? ['"'] text
  let (name, rest) ← unquote? rest
  return (String.ofList name, rest)

/-- Literals with a comma and a space between each and the next. -/
def literals? : Nat → List Char → Option (List String × List Char)
  | 0, text => some ([], text)
  | 1, text => (literal? text).map fun read => ([read.1], read.2)
  | count + 2, text => do
    let (name, rest) ← literal? text
    let rest ← after? ", ".toList rest
    let (names, rest) ← literals? (count + 1) rest
    return (name :: names, rest)

/-- The names in a row: four literals between the indentation and the comma that
ends the row, and nothing else. -/
def namesIn? (row : List Char) : Option (List String) := do
  let rest ← after? "    ".toList row
  let (names, rest) ← literals? 4 rest
  if rest = [','] then some names else none

theorem unquote?_escapeChar (c : Char) (rest : List Char) :
    unquote? (escapeChar c ++ rest) =
      (unquote? rest).map fun read => (c :: read.1, read.2) := by
  by_cases hescaped : c = '\\' ∨ c = '"'
  · rw [escapeChar, if_pos hescaped, List.cons_append, List.singleton_append]
    simp only [unquote?, if_pos hescaped]
  · rw [escapeChar, if_neg hescaped, List.singleton_append]
    rw [not_or] at hescaped
    simp [unquote?, hescaped]

/-- An escaped name is read back up to the quote behind it. -/
theorem unquote?_escaped (name rest : List Char) :
    unquote? (name.flatMap escapeChar ++ '"' :: rest) = some (name, rest) := by
  induction name with
  | nil => rfl
  | cons c name ih =>
      rw [List.flatMap_cons, List.append_assoc, unquote?_escapeChar, ih]
      rfl

theorem toList_literal (name : String) :
    (literal name).toList = '"' :: (name.toList.flatMap escapeChar ++ ['"']) := by
  rw [literal, String.toList_ofList]
  rfl

theorem literal?_literal (name : String) (rest : List Char) :
    literal? ((literal name).toList ++ rest) = some (name, rest) := by
  have hopening : ∀ text : List Char, after? ['"'] ('"' :: text) = some text :=
    fun text => Annotated.after?_eq_some_iff.mpr rfl
  have hread := unquote?_escaped name.toList rest
  rw [toList_literal, List.cons_append, List.append_assoc, List.singleton_append]
  simp only [literal?, hopening, Option.bind_eq_bind, Option.bind_some, hread]
  rw [String.ofList_toList]
  rfl

/-- Escaping character by character is the same as writing every backslash twice
first and every quote behind a backslash then. -/
theorem flatMap_escapeChar (name : List Char) :
    name.flatMap escapeChar =
      (name.flatMap fun c => if c = '\\' then ['\\', '\\'] else [c]).flatMap fun c =>
        if c = '"' then ['\\', '"'] else [c] := by
  rw [List.flatMap_assoc]
  congr 1
  funext c
  by_cases hbackslash : c = '\\'
  · subst hbackslash
    rfl
  · by_cases hquote : c = '"'
    · subst hquote
      rfl
    · simp [escapeChar, hbackslash, hquote]

/-! ## Rows -/

theorem literals?_intercalate {names : List String} (hne : names ≠ []) (rest : List Char) :
    literals? names.length
        (", ".toList.intercalate (names.map fun name => (literal name).toList) ++ rest) =
      some (names, rest) := by
  induction names with
  | nil => contradiction
  | cons first names ih =>
      cases names with
      | nil =>
          rw [List.map_singleton, List.intercalate_singleton]
          simp only [List.length_singleton, literals?, literal?_literal, Option.map_some]
      | cons second names =>
          have hrest := ih (List.cons_ne_nil second names)
          have hseparator : ∀ text, after? ", ".toList (", ".toList ++ text) = some text :=
            fun text => Annotated.after?_eq_some_iff.mpr rfl
          rw [List.map_cons, List.map_cons, List.intercalate_cons_cons, List.append_assoc,
            List.append_assoc]
          rw [List.map_cons, List.length_cons] at hrest
          simp only [List.length_cons, literals?, literal?_literal, Option.bind_eq_bind,
            Option.bind_some, hseparator, hrest]
          rfl

/-- What stands in the cell of an opcode. -/
def cell (catalogue : Catalogue) (space : Space) (opcode : Opcode) : String :=
  literal (nameAt (catalogue.opcodes space) opcode)

/-- The names that a row shows. -/
def rowNames (catalogue : Catalogue) (space : Space) (index : Fin 64) : List String :=
  (List.finRange 4).map fun column =>
    nameAt (catalogue.opcodes space) (TableLayout.opcodeAt index column)

/-- A row is read back as its four names. -/
theorem namesIn?_rowLine (catalogue : Catalogue) (space : Space) (index : Fin 64) :
    namesIn? (TableLayout.rowLine (cell catalogue space) index) =
      some (rowNames catalogue space index) := by
  have hne : rowNames catalogue space index ≠ [] := by simp [rowNames]
  have hread := literals?_intercalate hne [',']
  have hrow : TableLayout.rowLine (cell catalogue space) index =
      "    ".toList ++ (", ".toList.intercalate ((rowNames catalogue space index).map
        fun name => (literal name).toList) ++ [',']) := by
    simp only [TableLayout.rowLine, rowNames, cell, String.toList_append,
      String.toList_intercalate, List.append_assoc, List.map_map]
    rfl
  have hlength : (rowNames catalogue space index).length = 4 := by simp [rowNames]
  rw [hlength] at hread
  rw [namesIn?, hrow, Annotated.after?_eq_some_iff.mpr rfl]
  simp only [Option.bind_eq_bind, Option.bind_some, hread, if_true]

theorem newline_notMem_literal {name : String} (hname : '\n' ∉ name.toList) :
    '\n' ∉ (literal name).toList := by
  have hescaped : '\n' ∉ name.toList.flatMap escapeChar := by
    rw [List.mem_flatMap]
    rintro ⟨c, hmem, hin⟩
    unfold escapeChar at hin
    split at hin
    · simp only [List.mem_cons, List.not_mem_nil, or_false] at hin
      rcases hin with hbackslash | rfl
      · exact absurd hbackslash (by decide)
      · exact hname hmem
    · exact hname (List.mem_singleton.mp hin ▸ hmem)
  rw [toList_literal]
  simp [hescaped]

/-! ## The whole text -/

theorem render_eq (catalogue : Catalogue) :
    render catalogue =
      TableLayout.disclaimer ++
        TableLayout.tables "DISASM_TABLE" "&'static str" (cell catalogue) ++ "\n" := by
  simp only [render, fragments, String.join_append, List.cons_append, String.join_cons,
    String.join_nil, String.append_empty, String.append_assoc]
  rfl

section Run

variable (calls : List Call)

theorem newline_notMem_cell (space : Space) (opcode : Opcode) :
    '\n' ∉ (cell (Catalogue.empty.performAll calls) space opcode).toList :=
  newline_notMem_literal (newline_notMem_nameAt calls space opcode)

theorem rows_render (space : Space) :
    TableLayout.rows (render (Catalogue.empty.performAll calls)) space =
      (List.finRange 64).map
        (TableLayout.rowLine (cell (Catalogue.empty.performAll calls) space)) := by
  rw [render_eq]
  exact TableLayout.rows_tables _ (by decide) (by decide) (newline_notMem_cell calls) space

theorem namesIn?_rows (space : Space) :
    (TableLayout.rows (render (Catalogue.empty.performAll calls)) space).map namesIn? =
      ((List.finRange 64).map (rowNames (Catalogue.empty.performAll calls) space)).map some := by
  rw [rows_render, List.map_map, List.map_map]
  apply List.map_congr_left
  intro index _
  exact namesIn?_rowLine _ space index

theorem lines_disclaimer :
    lines TableLayout.disclaimer.toList = [TableLayout.disclaimer.toList.dropLast, []] := by
  have hline : '\n' ∉ TableLayout.disclaimer.toList.dropLast := by decide
  have hsplit : TableLayout.disclaimer.toList =
      TableLayout.disclaimer.toList.dropLast ++ '\n' :: [] := rfl
  rw [hsplit, lines_append_newline, lines_of_notMem (by simpa using hline)]
  rfl

theorem declarationLine_eq (space : Space) :
    TableLayout.declarationLine (space.tablePrefix ++ "DISASM_TABLE") "&'static str" =
      ("pub static " ++ space.tablePrefix ++ "DISASM_TABLE : [&'static str; 256] = [").toList := by
  cases space <;> rfl

theorem lines_render :
    lines (render (Catalogue.empty.performAll calls)).toList =
      lines TableLayout.disclaimer.toList ++
        (TableLayout.tablesLines "DISASM_TABLE" "&'static str"
          (cell (Catalogue.empty.performAll calls)) ++ [[]]) := by
  rw [render_eq]
  exact TableLayout.lines_tables _ (by decide) (by decide) (newline_notMem_cell calls)

end Run

/-- The text tells the name of every opcode. -/
theorem nameAt_eq_of_render_eq {first second : List Call}
    (hrender : render (Catalogue.empty.performAll first) =
      render (Catalogue.empty.performAll second)) (space : Space) (opcode : Opcode) :
    nameAt ((Catalogue.empty.performAll first).opcodes space) opcode =
      nameAt ((Catalogue.empty.performAll second).opcodes space) opcode := by
  have hnames := namesIn?_rows first space
  rw [hrender, namesIn?_rows second space] at hnames
  have hrows := List.map_injective_iff.mpr (Option.some_injective _) hnames
  exact congrFun (TableLayout.eq_of_rows_eq hrows.symm) opcode

theorem render_congr {catalogue other : Catalogue}
    (hname : ∀ space opcode,
      nameAt (catalogue.opcodes space) opcode = nameAt (other.opcodes space) opcode) :
    render catalogue = render other := by
  have hcell : cell catalogue = cell other := by
    funext space opcode
    rw [cell, cell, hname]
  rw [render_eq, render_eq, hcell]

/-- The disassembly source consists of its first line and two tables, and each row of a
table is read in full as the names of four opcodes, or `Missing` where a slot is empty.  Two
runs render the same text if and only if they show the same names. -/
theorem render_names (first second : List Call) :
    let one := Catalogue.empty.performAll first
    let other := Catalogue.empty.performAll second
    let shown : Catalogue → Space → Opcode → String := fun catalogue space opcode =>
      ((catalogue.opcodes space).get? opcode).elim "Missing" Instruction.name
    (∃ body : Space → List (List Char),
      lines (render one).toList =
        [TableLayout.disclaimer.toList.dropLast, [], [],
            "pub static DISASM_TABLE : [&'static str; 256] = [".toList] ++ body .primary ++
          ["];".toList, [], "pub static CB_DISASM_TABLE : [&'static str; 256] = [".toList] ++
            body .extended ++ ["];".toList, []] ∧
      ∀ space, (body space).length = 80 ∧
        TableLayout.withoutComments (body space) = TableLayout.rows (render one) space) ∧
    (∀ space, (TableLayout.rows (render one) space).map namesIn? =
      (List.finRange 64).map fun index => some ((List.finRange 4).map fun column =>
        shown one space (TableLayout.opcodeAt index column))) ∧
    (render one = render other ↔
      ∀ space opcode, shown one space opcode = shown other space opcode) := by
  intro one other shown
  have hshown : ∀ catalogue space opcode,
      shown catalogue space opcode = nameAt (catalogue.opcodes space) opcode :=
    fun catalogue space opcode => (nameAt_eq (catalogue.opcodes space) opcode).symm
  simp only [hshown]
  refine ⟨⟨fun space => TableLayout.bodyLines (cell one space), ?_, ?_⟩, ?_, ?_, ?_⟩
  · rw [lines_render, lines_disclaimer, TableLayout.tablesLines, declarationLine_eq,
      declarationLine_eq]
    rfl
  · intro space
    rw [rows_render, TableLayout.withoutComments_bodyLines]
    exact ⟨TableLayout.length_bodyLines _, rfl⟩
  · intro space
    rw [namesIn?_rows, List.map_map]
    rfl
  · exact nameAt_eq_of_render_eq
  · exact render_congr

/-- The name holds a backslash in front of a quote, and then what stands between cells. -/
theorem render_names_quote_and_backslash :
    let catalogue :=
      Catalogue.empty.performAll [.scan "// 'LD \"\\\", \"A' 00 4\npub fn f(" "a.rs"]
    catalogue.primary.get? 0 = some ⟨"LD \"\\\", \"A", "f", "4", "a.rs"⟩ ∧
      ((TableLayout.rows (render catalogue) .primary).map namesIn?)[0]? =
        some (some ["LD \"\\\", \"A", "Missing", "Missing", "Missing"]) ∧
      render catalogue ≠ render Catalogue.empty := by
  intro catalogue
  obtain ⟨-, hnames, hsame⟩ :=
    render_names [.scan "// 'LD \"\\\", \"A' 00 4\npub fn f(" "a.rs"] []
  refine ⟨by decide +kernel, ?_, fun hrender => ?_⟩
  · rw [hnames .primary]
    decide +kernel
  · have hshown := hsame.mp hrender .primary 0
    exact absurd hshown (by decide +kernel)

end DisassemblySource

end OpcodeTables
