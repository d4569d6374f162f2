import OpcodeTables.Proofs.Generated.TableReading

/-!
# The fragments of a table

The layout is made of blocks and rows.  A pass over the opcodes in steps of four, with a
comment wherever a multiple of sixteen is reached, gives the same fragments, so the
comments and the rows stand at fixed places of the list whatever the cells are, and each
opcode has its cell in one row and at one place of it.
-/

namespace OpcodeTables.TableLayout

/-! ## Rows and columns -/

theorem opcodeAt_eq_iff {index : Fin 64} {column : Fin 4} {opcode : Opcode} :
    opcodeAt index column = opcode ↔
      index.val = opcode.val / 4 ∧ column.val = opcode.val % 4 := by
  have hcolumn := column.isLt
  rw [Fin.ext_iff, opcodeAt]
  constructor
  · intro hvalue
    dsimp only at hvalue
    omega
  · rintro ⟨hindex, hplace⟩
    dsimp only
    omega

/-- The four cells of a row with what stands between them. -/
def joinedCells (cell : Opcode → String) (index : Fin 64) : String :=
  String.intercalate ", " ((List.finRange 4).map fun column => cell (opcodeAt index column))

theorem row_eq (cell : Opcode → String) (index : Fin 64) :
    row cell index = "    " ++ joinedCells cell index ++ ",\n" := rfl

theorem row_eq_row_iff {cell other : Opcode → String} {index : Fin 64} :
    row cell index = row other index ↔ joinedCells cell index = joinedCells other index := by
  rw [row_eq, row_eq]
  constructor
  · intro hrow
    rw [← String.toList_inj] at hrow ⊢
    simp only [String.toList_append] at hrow
    exact List.append_cancel_left (List.append_cancel_right hrow)
  · intro hcells
    rw [hcells]

/-! ## The layout as a pass over the opcodes -/

/-- A number below 256 in two digits. -/
def twoDigits (number : Nat) : String :=
  String.ofList ((Nat.toDigits 16 number).leftpad 2 '0')

theorem commentText_eq (opcode : Opcode) :
    opcode.commentText = "0x" ++ twoDigits opcode.val := by
  revert opcode
  decide +kernel

/-- What a step of the pass adds. -/
def stepFragments (cell : Opcode → String) (start : Nat) : List String :=
  (if start % 16 = 0 then ["    // 0x" ++ twoDigits start ++ "\n"] else []) ++
    ["    " ++ String.intercalate ", "
      ((List.range' start 4).map fun number => cell (Fin.ofNat 256 number)) ++ ",\n"]

/-- The fragments as one pass over the opcodes gives them, four opcodes at a step. -/
def passFragments (name elementType : String) (cell : Opcode → String) : List String :=
  declaration name elementType ::
    (List.range' 0 64 4).flatMap (stepFragments cell) ++ ["];"]

theorem comment_eq (index : Fin 16) :
    comment index = "    // 0x" ++ twoDigits (16 * index.val) ++ "\n" := by
  have hfirst : (opcodeAt (rowAt index 0) 0).val = 16 * index.val := by
    simp only [opcodeAt, rowAt, Fin.val_zero]
    omega
  rw [comment, commentText_eq, hfirst, ← String.append_assoc]
  rfl

theorem cells_step (cell : Opcode → String) (index : Fin 64) :
    (List.range' (4 * index.val) 4).map (fun number => cell (Fin.ofNat 256 number)) =
      (List.finRange 4).map fun column => cell (opcodeAt index column) := by
  have hopcode : ∀ column : Fin 4,
      Fin.ofNat 256 (4 * index.val + column.val) = opcodeAt index column := by
    intro column
    apply Fin.ext
    exact Nat.mod_eq_of_lt (opcodeAt index column).isLt
  simp only [← hopcode]
  rfl

theorem stepFragments_rowAt (cell : Opcode → String) (index : Fin 16) (line : Fin 4) :
    stepFragments cell (4 * (rowAt index line).val) =
      (if line = 0 then [comment index] else []) ++ [row cell (rowAt index line)] := by
  have hstart : 4 * (rowAt index line).val % 16 = 0 ↔ line = 0 := by
    have hline := line.isLt
    rw [Fin.ext_iff, rowAt, Fin.val_zero]
    dsimp only
    omega
  rw [stepFragments, cells_step]
  by_cases hline : line = 0
  · subst hline
    have hfirst : 4 * (rowAt index 0).val = 16 * index.val := by
      simp only [rowAt, Fin.val_zero]
      omega
    rw [if_pos rfl, if_pos (hstart.mpr rfl), comment_eq, hfirst]
    rfl
  · rw [if_neg hline, if_neg (mt hstart.mp hline)]
    rfl

/-- The blocks are what the pass over the opcodes gives. -/
theorem fragments_eq_passFragments (name elementType : String) (cell : Opcode → String) :
    fragments name elementType cell = passFragments name elementType cell := by
  have hsteps : List.range' 0 64 4 =
      (List.finRange 16).flatMap fun index =>
        (List.finRange 4).map fun line => 4 * (rowAt index line).val := by
    decide
  have hblock : ∀ index : Fin 16,
      ((List.finRange 4).map fun line => 4 * (rowAt index line).val).flatMap
        (stepFragments cell) = block cell index := by
    intro index
    rw [List.flatMap_map]
    simp only [stepFragments_rowAt]
    rfl
  rw [fragments, passFragments, hsteps, List.flatMap_assoc]
  simp only [hblock]

/-! ## Where the fragments stand -/

theorem getElem?_flatMap {α β : Type} {parts : α → List β} {width : Nat}
    (hwidth : ∀ whole, (parts whole).length = width) (wholes : List α) (index : Nat) {place : Nat}
    (hplace : place < width) :
    (wholes.flatMap parts)[width * index + place]? =
      wholes[index]?.bind fun whole => (parts whole)[place]? := by
  induction wholes generalizing index with
  | nil => rfl
  | cons whole wholes ih =>
      rw [List.flatMap_cons]
      cases index with
      | zero =>
          rw [Nat.mul_zero, Nat.zero_add, List.getElem?_append_left (by rwa [hwidth])]
          rfl
      | succ index =>
          have hbehind : width * (index + 1) + place - (parts whole).length =
              width * index + place := by
            rw [hwidth, Nat.mul_succ]
            omega
          have hle : (parts whole).length ≤ width * (index + 1) + place := by
            rw [hwidth, Nat.mul_succ]
            omega
          rw [List.getElem?_append_right hle, hbehind, ih]
          rfl

section Places

variable (name elementType : String) (cell : Opcode → String)

theorem length_block (index : Fin 16) : (block cell index).length = 5 := rfl

theorem length_blocks : ((List.finRange 16).flatMap (block cell)).length = 80 := by
  simp [List.length_flatMap, length_block]

theorem length_fragments : (fragments name elementType cell).length = 82 := by
  rw [fragments, List.length_append, List.length_cons, length_blocks]
  rfl

/-- A place of a block, counted behind the declaration. -/
theorem getElem?_fragments (index : Fin 16) {place : Nat} (hplace : place < 5) :
    (fragments name elementType cell)[5 * index.val + place + 1]? =
      (block cell index)[place]? := by
  have hinside : 5 * index.val + place < ((List.finRange 16).flatMap (block cell)).length := by
    rw [length_blocks]
    omega
  have hindex : (List.finRange 16)[index.val]? = some index := by simp
  rw [fragments, List.cons_append, List.getElem?_cons_succ, List.getElem?_append_left hinside,
    getElem?_flatMap (length_block cell) _ _ hplace, hindex]
  rfl

theorem getElem?_comment (index : Fin 16) :
    (fragments name elementType cell)[5 * index.val + 1]? = some (comment index) :=
  getElem?_fragments name elementType cell index (Nat.zero_lt_succ 4)

theorem getElem?_row (index : Fin 16) (line : Fin 4) :
    (fragments name elementType cell)[5 * index.val + line.val + 2]? =
      some (row cell (rowAt index line)) := by
  have hline : (List.finRange 4)[line.val]? = some line := by simp
  have hrow : (block cell index)[line.val + 1]? = some (row cell (rowAt index line)) := by
    rw [block, List.getElem?_cons_succ, List.getElem?_map, hline]
    rfl
  rw [← hrow]
  exact getElem?_fragments name elementType cell index (Nat.succ_lt_succ line.isLt)

theorem getElem?_closing : (fragments name elementType cell)[81]? = some "];" := by
  rw [fragments, List.cons_append, List.getElem?_cons_succ,
    List.getElem?_append_right (length_blocks cell).le, length_blocks]
  rfl

end Places

/-- What stands at each place of the fragments of a table. -/
structure LaidOut (name elementType : String) (cell : Opcode → String)
    (written : List String) : Prop where
  length : written.length = 82
  declaration : written[0]? =
    some ("\n\npub static " ++ name ++ " : [" ++ elementType ++ "; 256] = [\n")
  comment : ∀ block : Fin 16, written[5 * block.val + 1]? =
    some ("    // 0x" ++ twoDigits (16 * block.val) ++ "\n")
  row : ∀ (block : Fin 16) (line : Fin 4), written[5 * block.val + line.val + 2]? =
    some ("    " ++ joinedCells cell (rowAt block line) ++ ",\n")
  closing : written[81]? = some "];"

/-- Every place of the fragments holds what its number calls for. -/
theorem laidOut_fragments (name elementType : String) (cell : Opcode → String) :
    LaidOut name elementType cell (fragments name elementType cell) where
  length := length_fragments name elementType cell
  declaration := rfl
  comment block := by rw [getElem?_comment, comment_eq]
  row block line := by rw [getElem?_row, row_eq]
  closing := getElem?_closing name elementType cell

/-- A place is that of the declaration, of a comment, of a row, of the closing bracket, or
it is behind the end. -/
theorem place_cases (place : Nat) :
    place = 0 ∨ (∃ block : Fin 16, place = 5 * block.val + 1) ∨
      (∃ (block : Fin 16) (line : Fin 4), place = 5 * block.val + line.val + 2) ∨
      place = 81 ∨ 82 ≤ place := by
  by_cases hinside : 1 ≤ place ∧ place ≤ 80
  · have hblock : (place - 1) / 5 < 16 := by omega
    have hplace : (place - 1) % 5 < 5 := Nat.mod_lt _ (Nat.zero_lt_succ 4)
    rcases Nat.eq_zero_or_pos ((place - 1) % 5) with hfirst | hbehind
    · refine .inr (.inl ⟨⟨(place - 1) / 5, hblock⟩, ?_⟩)
      dsimp only
      omega
    · refine .inr (.inr (.inl ⟨⟨(place - 1) / 5, hblock⟩, ⟨(place - 1) % 5 - 1, by omega⟩, ?_⟩))
      dsimp only
      omega
  · omega

theorem LaidOut.unique {name elementType : String} {cell : Opcode → String}
    {written other : List String} (hwritten : LaidOut name elementType cell written)
    (hother : LaidOut name elementType cell other) : written = other := by
  apply List.ext_getElem?
  intro place
  rcases place_cases place with rfl | ⟨block, rfl⟩ | ⟨block, line, rfl⟩ | rfl | hend
  · rw [hwritten.declaration, hother.declaration]
  · rw [hwritten.comment, hother.comment]
  · rw [hwritten.row, hother.row]
  · rw [hwritten.closing, hother.closing]
  · rw [List.getElem?_eq_none (hwritten.length ▸ hend),
      List.getElem?_eq_none (hother.length ▸ hend)]

theorem exists_rowAt (index : Fin 64) : ∃ block line, rowAt block line = index := by
  refine ⟨⟨index.val / 4, by omega⟩, ⟨index.val % 4, by omega⟩, ?_⟩
  apply Fin.ext
  simp only [rowAt]
  omega

theorem fragments_eq_iff (name elementType : String) {cell other : Opcode → String} :
    fragments name elementType cell = fragments name elementType other ↔
      ∀ index, joinedCells cell index = joinedCells other index := by
  constructor
  · intro hfragments index
    obtain ⟨block, line, rfl⟩ := exists_rowAt index
    have hrow := getElem?_row name elementType cell block line
    rw [hfragments, getElem?_row] at hrow
    exact row_eq_row_iff.mp (Option.some.inj hrow).symm
  · intro hcells
    have hblock : block cell = block other := by
      funext index
      rw [block, block]
      simp only [row_eq, hcells]
    rw [fragments, fragments, hblock]

/-- The layout, as a pass over the opcodes and by the places of its fragments.  Every
opcode has one row and one place in it, and the rows in their order show the opcodes in
theirs. -/
theorem fragments_layout (name elementType : String) (cell : Opcode → String) :
    fragments name elementType cell = passFragments name elementType cell ∧
    (∀ written, LaidOut name elementType cell written ↔
      written = fragments name elementType cell) ∧
    (∀ (block : Fin 16) (line : Fin 4), (rowAt block line).val = 4 * block.val + line.val) ∧
    (∀ (index : Fin 64) (column : Fin 4),
      (opcodeAt index column).val = 4 * index.val + column.val) ∧
    (∀ (opcode : Opcode) (index : Fin 64) (column : Fin 4), opcodeAt index column = opcode ↔
      index.val = opcode.val / 4 ∧ column.val = opcode.val % 4) ∧
    ((List.finRange 64).flatMap fun index =>
      (List.finRange 4).map fun column => opcodeAt index column) = Opcode.all ∧
    ∀ other, fragments name elementType cell = fragments name elementType other ↔
      ∀ index, joinedCells cell index = joinedCells other index := by
  have hlaid := laidOut_fragments name elementType cell
  refine ⟨fragments_eq_passFragments name elementType cell, fun written => ⟨?_, ?_⟩,
    fun block line => rfl, fun index column => rfl, fun opcode index column => opcodeAt_eq_iff,
    flatMap_opcodeAt, fun other => fragments_eq_iff name elementType⟩
  · intro hwritten
    exact hwritten.unique hlaid
  · rintro rfl
    exact hlaid

end OpcodeTables.TableLayout
