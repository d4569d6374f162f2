import Mathlib
import OpcodeTables.Generated.TableLayout
import OpcodeTables.Proofs.Text.Lines
import OpcodeTables.Space

/-!
# Reading tables back

A generated source ends in the tables of the two spaces.  As no cell breaks its
line, every table is a fixed number of lines, so the rows are found by counting
lines from the end of the text, whatever stands in front of the tables and in
their cells.
-/

namespace OpcodeTables.TableLayout

open Text

/-! ## The lines of a table -/

def declarationLine (name elementType : String) : List Char :=
  ("pub static " ++ name ++ " : [" ++ elementType ++ "; 256] = [").toList

def commentLine (index : Fin 16) : List Char :=
  (comment index).toList.dropLast

def rowLine (cell : Opcode → String) (index : Fin 64) : List Char :=
  ("    " ++
    String.intercalate ", " ((List.finRange 4).map fun column => cell (opcodeAt index column)) ++
    ",").toList

def blockLines (cell : Opcode → String) (index : Fin 16) : List (List Char) :=
  commentLine index :: (List.finRange 4).map fun line => rowLine cell (rowAt index line)

/-- The lines between the declaration of a table and its closing bracket. -/
def bodyLines (cell : Opcode → String) : List (List Char) :=
  (List.finRange 16).flatMap (blockLines cell)

theorem toList_row (cell : Opcode → String) (index : Fin 64) :
    (row cell index).toList = rowLine cell index ++ ['\n'] := by
  simp only [row, rowLine, String.toList_append, List.append_assoc]
  rfl

theorem toList_comment (index : Fin 16) :
    (comment index).toList = commentLine index ++ ['\n'] := by
  have hend : "\n".toList = ['\n'] := rfl
  rw [commentLine, comment, String.toList_append, hend, List.dropLast_concat]

theorem flatMap_block (cell : Opcode → String) (index : Fin 16) :
    (block cell index).flatMap String.toList =
      (blockLines cell index).flatMap fun line => line ++ ['\n'] := by
  rw [block, blockLines, List.flatMap_cons, List.flatMap_cons, toList_comment,
    List.flatMap_map, List.flatMap_map]
  simp only [toList_row]

theorem flatMap_body (cell : Opcode → String) :
    ((List.finRange 16).flatMap (block cell)).flatMap String.toList =
      (bodyLines cell).flatMap fun line => line ++ ['\n'] := by
  rw [bodyLines, List.flatMap_assoc, List.flatMap_assoc]
  simp only [flatMap_block]

theorem toList_join_fragments (name elementType : String) (cell : Opcode → String) :
    (String.join (fragments name elementType cell)).toList =
      '\n' :: ([] :: declarationLine name elementType :: bodyLines cell).flatMap
        (fun line => line ++ ['\n']) ++ "];".toList := by
  have hdeclaration : (declaration name elementType).toList =
      '\n' :: '\n' :: (declarationLine name elementType ++ ['\n']) := by
    have hfront : "\n\npub static ".toList = '\n' :: '\n' :: "pub static ".toList := rfl
    have hend : "; 256] = [\n".toList = "; 256] = [".toList ++ ['\n'] := rfl
    -- unfolding by `declaration`'s own equation is slow, so the text is written out
    change ("\n\npub static " ++ name ++ " : [" ++ elementType ++ "; 256] = [\n").toList = _
    simp only [declarationLine, String.toList_append, hfront, hend, List.cons_append]
    rw [List.append_assoc _ _ ['\n']]
  rw [fragments, String.toList_join, List.flatMap_append, List.flatMap_cons, flatMap_body,
    hdeclaration]
  simp

theorem length_bodyLines (cell : Opcode → String) : (bodyLines cell).length = 80 := by
  have hblock : ∀ index, (blockLines cell index).length = 5 := by
    intro index
    simp [blockLines]
  simp [bodyLines, List.length_flatMap, hblock]

/-! ## Lines stay whole -/

theorem newline_notMem_commentLine (index : Fin 16) : '\n' ∉ commentLine index := by
  revert index
  decide

theorem newline_notMem_rowLine {cell : Opcode → String}
    (hcell : ∀ opcode, '\n' ∉ (cell opcode).toList) (index : Fin 64) :
    '\n' ∉ rowLine cell index := by
  simp only [rowLine, String.toList_append, String.toList_intercalate, List.mem_append, not_or]
  refine ⟨⟨by decide, ?_⟩, by decide⟩
  apply notMem_intercalate (by decide)
  intro piece hmem
  obtain ⟨text, htext, rfl⟩ := List.mem_map.mp hmem
  obtain ⟨column, -, rfl⟩ := List.mem_map.mp htext
  exact hcell _

theorem newline_notMem_bodyLines {cell : Opcode → String}
    (hcell : ∀ opcode, '\n' ∉ (cell opcode).toList) :
    ∀ line ∈ bodyLines cell, '\n' ∉ line := by
  intro line hline
  obtain ⟨index, -, hblock⟩ := List.mem_flatMap.mp hline
  rcases List.mem_cons.mp hblock with rfl | hrow
  · exact newline_notMem_commentLine index
  · obtain ⟨place, -, rfl⟩ := List.mem_map.mp hrow
    exact newline_notMem_rowLine hcell _

/-! ## Counting lines from the end -/

/-- The lines of a table's body, if `count` lines stand behind it. -/
def bodyBefore (count : Nat) (written : List (List Char)) : List (List Char) :=
  ((written.reverse.drop count).take 80).reverse

/-- A body begins every block of five lines with a comment. -/
def withoutComments : List (List Char) → List (List Char)
  | _ :: first :: second :: third :: fourth :: rest =>
    first :: second :: third :: fourth :: withoutComments rest
  | _ => []

/-- How many lines stand behind the body of a space's table: its closing bracket
and the empty end of the text, and in front of these the table of the extended
space with an empty line and its declaration. -/
def linesBehind : Space → Nat
  | .primary => 85
  | .extended => 2

/-- The rows of the table of a space. -/
def rows (text : String) (space : Space) : List (List Char) :=
  withoutComments (bodyBefore (linesBehind space) (lines text.toList))

theorem bodyBefore_append {body : List (List Char)} (front behind : List (List Char))
    (hbody : body.length = 80) :
    bodyBefore behind.length (front ++ (body ++ behind)) = body := by
  rw [bodyBefore, List.reverse_append, List.reverse_append, List.append_assoc,
    List.drop_left' List.length_reverse,
    List.take_left' (by rw [List.length_reverse, hbody]), List.reverse_reverse]

theorem withoutComments_bodyLines (cell : Opcode → String) :
    withoutComments (bodyLines cell) = (List.finRange 64).map (rowLine cell) := by
  have hblocks : ∀ indices : List (Fin 16),
      withoutComments (indices.flatMap (blockLines cell)) =
        indices.flatMap fun index =>
          (List.finRange 4).map fun line => rowLine cell (rowAt index line) := by
    intro indices
    induction indices with
    | nil => rfl
    | cons index rest ih =>
        rw [List.flatMap_cons, List.flatMap_cons, ← ih]
        rfl
  have hrows : (List.finRange 16).flatMap (fun index => (List.finRange 4).map (rowAt index)) =
      List.finRange 64 := by
    decide
  rw [bodyLines, hblocks, ← hrows, List.map_flatMap]
  simp only [List.map_map, Function.comp_def]

theorem exists_opcodeAt (opcode : Opcode) :
    ∃ index column, opcodeAt index column = opcode := by
  refine ⟨⟨opcode.val / 4, by omega⟩, ⟨opcode.val % 4, by omega⟩, ?_⟩
  apply Fin.ext
  simp only [opcodeAt]
  omega

/-- The rows in their order show the opcodes in theirs. -/
theorem flatMap_opcodeAt :
    ((List.finRange 64).flatMap fun index =>
      (List.finRange 4).map fun column => opcodeAt index column) = Opcode.all := by
  decide +kernel

/-- The rows show every opcode. -/
theorem eq_of_rows_eq {α : Type} {value other : Opcode → α}
    (hrows : (List.finRange 64).map
        (fun index => (List.finRange 4).map fun column => value (opcodeAt index column)) =
      (List.finRange 64).map
        fun index => (List.finRange 4).map fun column => other (opcodeAt index column)) :
    value = other := by
  funext opcode
  obtain ⟨index, column, rfl⟩ := exists_opcodeAt opcode
  have hrow := List.map_inj_left.mp hrows index (List.mem_finRange index)
  exact List.map_inj_left.mp hrow column (List.mem_finRange column)

section Tables

variable (base elementType : String) (cell : Space → Opcode → String)

/-- The tables of both spaces, with the cells that a generated source gives them. -/
def tables : String :=
  String.join (Space.all.flatMap fun space =>
    fragments (space.tablePrefix ++ base) elementType (cell space))

/-- The lines of both tables, without the newline in front of them. -/
def tablesLines : List (List Char) :=
  ([] :: declarationLine (Space.primary.tablePrefix ++ base) elementType ::
      bodyLines (cell .primary)) ++
    ("];".toList :: [] :: declarationLine (Space.extended.tablePrefix ++ base) elementType ::
      bodyLines (cell .extended)) ++ ["];".toList]

theorem toList_tables :
    (tables base elementType cell ++ "\n").toList =
      '\n' :: (tablesLines base elementType cell).flatMap fun line => line ++ ['\n'] := by
  rw [tables, Space.all, List.flatMap_cons, List.flatMap_singleton, String.join_append,
    String.toList_append, String.toList_append, toList_join_fragments, toList_join_fragments,
    tablesLines]
  simp

variable {base elementType cell}

theorem newline_notMem_declarationLine {name : String} (hname : '\n' ∉ name.toList)
    (htype : '\n' ∉ elementType.toList) : '\n' ∉ declarationLine name elementType := by
  simp only [declarationLine, String.toList_append, List.mem_append, not_or]
  exact ⟨⟨⟨⟨by decide, hname⟩, by decide⟩, htype⟩, by decide⟩

theorem newline_notMem_tablesLines (hbase : '\n' ∉ base.toList)
    (htype : '\n' ∉ elementType.toList)
    (hcell : ∀ space opcode, '\n' ∉ (cell space opcode).toList) :
    ∀ line ∈ tablesLines base elementType cell, '\n' ∉ line := by
  have hdeclaration : ∀ space : Space,
      '\n' ∉ declarationLine (space.tablePrefix ++ base) elementType := by
    intro space
    apply newline_notMem_declarationLine _ htype
    rw [String.toList_append, List.mem_append, not_or]
    exact ⟨by cases space <;> decide, hbase⟩
  have hbody : ∀ space, ∀ line ∈ bodyLines (cell space), '\n' ∉ line :=
    fun space => newline_notMem_bodyLines (hcell space)
  have hbracket : '\n' ∉ "];".toList := by decide
  have hempty : '\n' ∉ ([] : List Char) := List.not_mem_nil
  simp only [tablesLines, List.forall_mem_append, List.forall_mem_cons]
  exact ⟨⟨⟨hempty, hdeclaration .primary, hbody .primary⟩,
    hbracket, hempty, hdeclaration .extended, hbody .extended⟩, hbracket, by simp⟩

/-- The lines of a text that ends in both tables. -/
theorem lines_tables (beginning : String) (hbase : '\n' ∉ base.toList)
    (htype : '\n' ∉ elementType.toList)
    (hcell : ∀ space opcode, '\n' ∉ (cell space opcode).toList) :
    lines (beginning ++ tables base elementType cell ++ "\n").toList =
      lines beginning.toList ++ (tablesLines base elementType cell ++ [[]]) := by
  have hlines := lines_flatMap (newline_notMem_tablesLines hbase htype hcell) []
  rw [String.append_assoc, String.toList_append, toList_tables, lines_append_newline]
  rw [List.append_nil] at hlines
  rw [hlines]
  rfl

/-- The rows of both tables are read back from the text that they end. -/
theorem rows_tables (beginning : String) (hbase : '\n' ∉ base.toList)
    (htype : '\n' ∉ elementType.toList)
    (hcell : ∀ space opcode, '\n' ∉ (cell space opcode).toList) (space : Space) :
    rows (beginning ++ tables base elementType cell ++ "\n") space =
      (List.finRange 64).map (rowLine (cell space)) := by
  have hprimary := length_bodyLines (cell .primary)
  have hextended := length_bodyLines (cell .extended)
  rw [rows, lines_tables beginning hbase htype hcell, ← withoutComments_bodyLines]
  congr 1
  cases space with
  | primary =>
      have hread := bodyBefore_append
        (lines beginning.toList ++
          [[], declarationLine (Space.primary.tablePrefix ++ base) elementType])
        ("];".toList :: [] ::
          declarationLine (Space.extended.tablePrefix ++ base) elementType ::
            (bodyLines (cell .extended) ++ ["];".toList, []])) hprimary
      simp only [List.length_cons, List.length_append, hextended, List.length_nil] at hread
      simpa [tablesLines, linesBehind] using hread
  | extended =>
      have hread := bodyBefore_append
        (lines beginning.toList ++
          ([] :: declarationLine (Space.primary.tablePrefix ++ base) elementType ::
            (bodyLines (cell .primary) ++ ["];".toList, [],
              declarationLine (Space.extended.tablePrefix ++ base) elementType])))
        ["];".toList, []] hextended
      simpa [tablesLines, linesBehind] using hread

end Tables

end OpcodeTables.TableLayout
