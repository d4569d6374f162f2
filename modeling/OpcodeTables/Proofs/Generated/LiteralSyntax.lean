import OpcodeTables.Proofs.Generated.DisassemblyReading
import OpcodeTables.Text.Hexadecimal

/-!
# Names as literals

The compiler of the generated sources reads a literal one character at a time.  Between the
quotes a backslash begins an escape, and a carriage return may stand only where a newline
follows it; all other characters stand for themselves.

A literal of the disassembly source escapes quotes and backslashes.  A name holds no
newline, so the one fault that is left is a carriage return in the name: it is written as it
is, and the literal is refused.
-/

namespace OpcodeTables

namespace StringLiteral

/-- How far a literal is read. -/
inductive Phase where
  | opening
  | inside
  /-- Behind a carriage return. -/
  | lineEnd
  | escape
  /-- Behind a backslash and a carriage return. -/
  | escapedLineEnd
  /-- Behind a backslash that ends a line, where blanks do not count. -/
  | indentation
  | highDigit
  | lowDigit
  | codeOpening
  | code (digits value : Nat)
  | closed
  deriving DecidableEq, Repr

def insideStep (c : Char) : Phase :=
  if c = '"' then .closed
  else if c = '\\' then .escape
  else if c = '\r' then .lineEnd
  else .inside

/-- What may stand behind a backslash. -/
def escapeStep? (c : Char) : Option Phase :=
  if c ∈ ['n', 'r', 't', '\\', '0', '\x27', '"'] then some .inside
  else if c = 'x' then some .highDigit
  else if c = 'u' then some .codeOpening
  else if c = '\n' then some .indentation
  else if c = '\r' then some .escapedLineEnd
  else none

/-- A code point has up to six digits, with underscores behind the first. -/
def codeStep? (digits value : Nat) (c : Char) : Option Phase :=
  if c = '\x7d' then
    if 0 < digits ∧ (value < 0xD800 ∨ 0xDFFF < value ∧ value < 0x110000) then some .inside
    else none
  else if c = '_' then if 0 < digits then some (.code digits value) else none
  else
    match Text.hexDigit? c with
    | some digit => if digits < 6 then some (.code (digits + 1) (16 * value + digit)) else none
    | none => none

/-- Reads one character.  There is no step where the literal is faulty. -/
def step : Phase → Char → Option Phase
  | .opening, c => if c = '"' then some .inside else none
  | .inside, c => some (insideStep c)
  | .lineEnd, c => if c = '\n' then some .inside else none
  | .escape, c => escapeStep? c
  | .escapedLineEnd, c => if c = '\n' then some .indentation else none
  | .indentation, c =>
    if c ∈ [' ', '\t', '\n', '\r'] then some .indentation else some (insideStep c)
  | .highDigit, c => if '0' ≤ c ∧ c ≤ '7' then some .lowDigit else none
  | .lowDigit, c => if (Text.hexDigit? c).isSome then some .inside else none
  | .codeOpening, c => if c = '\x7b' then some (.code 0 0) else none
  | .code digits value, c => codeStep? digits value c
  | .closed, _ => none

/-- The text is one literal from its first character to its last. -/
def IsLiteral (text : List Char) : Prop := text.foldlM step .opening = some .closed

instance (text : List Char) : Decidable (IsLiteral text) :=
  inferInstanceAs (Decidable (_ = _))

/-- The marks that change the direction of text.  A compiler that keeps to its defaults
refuses them in a literal. -/
def changesDirection (c : Char) : Bool :=
  ('\u202A' ≤ c && c ≤ '\u202E') || ('\u2066' ≤ c && c ≤ '\u2069')

/-- A literal that a compiler accepts by its defaults. -/
structure IsAccepted (text : List Char) : Prop where
  isLiteral : IsLiteral text
  directed : ∀ c ∈ text, changesDirection c = false

end StringLiteral

namespace DisassemblySource

open StringLiteral

/-! ## The literal of a name -/

theorem foldlM_escapeChar {c : Char} (hreturn : c ≠ '\r') (rest : List Char) :
    (escapeChar c ++ rest).foldlM step .inside = rest.foldlM step .inside := by
  unfold escapeChar
  split
  · next hescaped => rcases hescaped with rfl | rfl <;> rfl
  · next hplain =>
      rw [not_or] at hplain
      rw [List.singleton_append, List.foldlM_cons, step, insideStep, if_neg hplain.2,
        if_neg hplain.1, if_neg hreturn]
      rfl

theorem foldlM_return {rest : List Char} (hrest : rest.head? ≠ some '\n') :
    ('\r' :: rest).foldlM step .inside ≠ some .closed := by
  cases rest with
  | nil => decide
  | cons c rest =>
      have hc : c ≠ '\n' := by simpa using hrest
      have hstep : step .lineEnd c = none := if_neg hc
      change (step .lineEnd c).bind _ ≠ _
      rw [hstep]
      simp

/-- The characters behind the opening quote, for a name without a newline. -/
theorem foldlM_escaped_iff {name : List Char} (hname : '\n' ∉ name) :
    (name.flatMap escapeChar ++ ['"']).foldlM step .inside = some .closed ↔ '\r' ∉ name := by
  induction name with
  | nil => decide
  | cons c name ih =>
      rw [List.mem_cons, not_or] at hname
      rw [List.flatMap_cons, List.append_assoc, List.mem_cons, not_or]
      by_cases hreturn : c = '\r'
      · subst hreturn
        have hplain : escapeChar '\r' = ['\r'] := by decide
        have hbehind : '\n' ∉ '"' :: (name.flatMap escapeChar ++ ['"']) := by
          have hliteral : '\n' ∉ (literal (String.ofList name)).toList :=
            newline_notMem_literal (by rw [String.toList_ofList]; exact hname.2)
          rwa [toList_literal, String.toList_ofList] at hliteral
        have hhead : (name.flatMap escapeChar ++ ['"']).head? ≠ some '\n' := fun hhead =>
          hbehind (List.mem_cons_of_mem _ (List.mem_of_mem_head? hhead))
        rw [hplain, List.singleton_append]
        exact ⟨fun hclosed => absurd hclosed (foldlM_return hhead),
          fun hnone => absurd rfl hnone.1⟩
      · rw [foldlM_escapeChar hreturn, ih hname.2]
        exact ⟨fun hrest => ⟨Ne.symm hreturn, hrest⟩, And.right⟩

/-- A name makes a literal if it holds no carriage return. -/
theorem isLiteral_literal_iff {name : String} (hname : '\n' ∉ name.toList) :
    IsLiteral (literal name).toList ↔ '\r' ∉ name.toList := by
  rw [IsLiteral, toList_literal, List.foldlM_cons]
  exact foldlM_escaped_iff hname

/-- Escaping adds quotes and backslashes only. -/
theorem mem_literal_iff {name : String} {c : Char} (hquote : c ≠ '"') (hbackslash : c ≠ '\\') :
    c ∈ (literal name).toList ↔ c ∈ name.toList := by
  have hescape : ∀ written, c ∈ escapeChar written ↔ c = written := by
    intro written
    unfold escapeChar
    split <;> simp [hbackslash]
  rw [toList_literal]
  simp [hquote, hescape]

/-- A compiler accepts the literal if besides no mark in the name changes the direction
of text. -/
theorem isAccepted_literal_iff {name : String} (hname : '\n' ∉ name.toList) :
    IsAccepted (literal name).toList ↔
      '\r' ∉ name.toList ∧ ∀ c ∈ name.toList, changesDirection c = false := by
  have hplain : ∀ c, changesDirection c = true → c ≠ '"' ∧ c ≠ '\\' := by
    intro c hc
    constructor <;> rintro rfl <;> exact absurd hc (by decide)
  have hdirected : (∀ c ∈ (literal name).toList, changesDirection c = false) ↔
      ∀ c ∈ name.toList, changesDirection c = false := by
    refine forall_congr' fun c => ?_
    cases hc : changesDirection c with
    | false => simp
    | true => rw [mem_literal_iff (hplain c hc).1 (hplain c hc).2]
  rw [← isLiteral_literal_iff hname, ← hdirected]
  exact ⟨fun haccepted => ⟨haccepted.isLiteral, haccepted.directed⟩,
    fun hboth => ⟨hboth.1, hboth.2⟩⟩

/-! ## The cells of a run -/

/-- A cell of either table is a literal if and only if its name holds no carriage return. -/
theorem render_literals (calls : List Call) :
    let catalogue := Catalogue.empty.performAll calls
    (∀ space, TableLayout.rows (render catalogue) space =
      (List.finRange 64).map (TableLayout.rowLine (cell catalogue space))) ∧
    (∀ space opcode,
      let name := ((catalogue.opcodes space).get? opcode).elim "Missing" Instruction.name
      (IsLiteral (cell catalogue space opcode).toList ↔ '\r' ∉ name.toList) ∧
      (IsAccepted (cell catalogue space opcode).toList ↔
        '\r' ∉ name.toList ∧ ∀ c ∈ name.toList, changesDirection c = false)) ∧
    ((∀ sighting ∈ History.sightings calls, '\r' ∉ sighting.found.name.toList) →
      ∀ space opcode, IsLiteral (cell catalogue space opcode).toList) := by
  intro catalogue
  simp only [← nameAt_eq]
  have hname : ∀ space opcode, '\n' ∉ (nameAt (catalogue.opcodes space) opcode).toList :=
    newline_notMem_nameAt calls
  refine ⟨rows_render calls, fun space opcode => ⟨?_, ?_⟩, fun hseen space opcode => ?_⟩
  · exact isLiteral_literal_iff (hname space opcode)
  · exact isAccepted_literal_iff (hname space opcode)
  · refine (isLiteral_literal_iff (hname space opcode)).mpr ?_
    rcases nameAt_cases calls space opcode with hmissing | ⟨sighting, hmem, hshown⟩
    · rw [hmissing]
      decide
    · rw [← hshown]
      exact hseen sighting hmem

/-- A quote and a backslash in a name are escaped. -/
theorem render_literals_quote_and_backslash :
    let calls := [Call.scan "// 'a\"b\\' 00 4\npub fn f(" "a.rs"]
    let catalogue := Catalogue.empty.performAll calls
    (∀ sighting ∈ History.sightings calls, '\r' ∉ sighting.found.name.toList) ∧
      catalogue.primary.get? 0 = some ⟨"a\"b\\", "f", "4", "a.rs"⟩ ∧
      ∀ space opcode, IsLiteral (cell catalogue space opcode).toList := by
  intro calls catalogue
  have hseen : ∀ sighting ∈ History.sightings calls, '\r' ∉ sighting.found.name.toList := by
    decide +kernel
  have hslot : catalogue.primary.get? 0 = some ⟨"a\"b\\", "f", "4", "a.rs"⟩ := by decide +kernel
  obtain ⟨-, -, hall⟩ := render_literals calls
  exact ⟨hseen, hslot, hall hseen⟩

/-- In a source with carriage returns alone between its lines a name can reach over what an
editor shows as several lines. -/
theorem not_isLiteral_of_carriage_return :
    let catalogue := Catalogue.empty.performAll [.scan "// 'A\rB' 00 4\npub fn f(" "a.rs"]
    catalogue.primary.get? 0 = some ⟨"A\rB", "f", "4", "a.rs"⟩ ∧
      TableLayout.rowLine (cell catalogue .primary) 0 ∈
        TableLayout.rows (render catalogue) .primary ∧
      (cell catalogue .primary (TableLayout.opcodeAt 0 0)).toList = ['"', 'A', '\r', 'B', '"'] ∧
      ¬ ∀ space opcode, IsLiteral (cell catalogue space opcode).toList := by
  intro catalogue
  have hslot : catalogue.primary.get? 0 = some ⟨"A\rB", "f", "4", "a.rs"⟩ := by decide +kernel
  have hcell : (cell catalogue .primary 0).toList = ['"', 'A', '\r', 'B', '"'] := by
    have hname : nameAt (catalogue.opcodes .primary) 0 = "A\rB" := by
      rw [nameAt, Catalogue.opcodes, hslot]
    rw [cell, hname]
    decide
  refine ⟨hslot, ?_, hcell, fun hall => ?_⟩
  · rw [rows_render]
    exact List.mem_map_of_mem (List.mem_finRange 0)
  · have hliteral := hall .primary 0
    rw [hcell] at hliteral
    exact absurd hliteral (by decide)

end DisassemblySource

end OpcodeTables
